/-! Sets kept as ascending lists without repetition. -/

namespace ClientGen.SortedSet

variable {α : Type} [LT α] [DecidableLT α]

/-- Of two optional elements none is the less. -/
instance decidableLtOption (a b : Option α) : Decidable (a < b) :=
  inferInstanceAs (Decidable (Option.lt (· < ·) a b))

/-- The set with one more element, at its place. -/
def insert (a : α) : List α → List α
  | [] => [a]
  | b :: rest =>
    if a < b then a :: b :: rest
    else if b < a then b :: insert a rest
    else b :: rest

def union (s t : List α) : List α := t.foldl (fun set a => insert a set) s

/-- The set of the elements of a list. -/
def ofList (l : List α) : List α := union [] l

/-- Two elements neither of which is less are equal. -/
class Trichotomous (α : Type) [LT α] : Prop where
  eq_of_not_lt {a b : α} : ¬a < b → ¬b < a → a = b

theorem mem_insert [Trichotomous α] {a x : α} {s : List α} :
    x ∈ insert a s ↔ x = a ∨ x ∈ s := by
  induction s with
  | nil => simp [insert]
  | cons b rest ih =>
    simp only [insert]
    split
    · simp
    · split
      · simp only [List.mem_cons, ih]
        grind
      · rename_i hab hba
        have := Trichotomous.eq_of_not_lt hab hba
        subst this
        simp

/-- A set stays ascending. -/
theorem pairwise_insert [Trichotomous α] (trans : ∀ {a b c : α}, a < b → b < c → a < c) {a : α}
    {s : List α} (h : s.Pairwise (· < ·)) : (insert a s).Pairwise (· < ·) := by
  induction s with
  | nil => simp [insert]
  | cons b rest ih =>
    have hb := List.pairwise_cons.1 h
    simp only [insert]
    split
    · rename_i hab
      refine List.pairwise_cons.2 ⟨fun x hx => ?_, h⟩
      rcases List.mem_cons.1 hx with rfl | hx
      · exact hab
      · exact trans hab (hb.1 x hx)
    · split
      · rename_i hba
        refine List.pairwise_cons.2 ⟨fun x hx => ?_, ih hb.2⟩
        rcases mem_insert.1 hx with rfl | hx
        · exact hba
        · exact hb.1 x hx
      · exact h

end ClientGen.SortedSet
