import ClientGen.Error
import ClientGen.Order.SortedSet

/-!
# Looking up what an identifier refers to

Besides the lookups stands the measure of how many shapes a walk over the model has still to see.
Every walk remembers the shapes it has met, so each new one makes the measure smaller.
-/

namespace ClientGen

instance : SortedSet.Trichotomous ShapeId where
  eq_of_not_lt {a b} hab hba := by
    rcases ShapeId.lt_trichotomy a b with h | h | h
    · exact absurd h hab
    · exact h
    · exact absurd h hba

namespace Model

/-- The shape with the identifier, which `from_` refers to. -/
def resolveShape (m : Model) (id : ShapeId) (from_ : Referrer) : Except GenerationError Shape :=
  match m.shape? id with
  | some s => .ok s
  | none => .error (.unresolvedShape id from_)

/-- The service with the identifier, which the settings name. -/
def resolveService (m : Model) (id : ShapeId) : Except GenerationError Service :=
  match m.service? id with
  | some s => .ok s
  | none => .error (.unresolvedShape id .settings)

/-- How many shapes of the model are not among those seen. -/
def unseen (m : Model) (seen : List ShapeId) : Nat :=
  (m.shapes.ids.filter fun id => !seen.contains id).length

theorem id_of_shape? {m : Model} {id : ShapeId} {s : Shape} (h : m.shape? id = some s) :
    s.id = id := by
  have := List.find?_some (p := fun a => decide (Identified.idOf a = id)) h
  exact of_decide_eq_true this

theorem mem_ids_of_shape? {m : Model} {id : ShapeId} {s : Shape} (h : m.shape? id = some s) :
    id ∈ m.shapes.ids :=
  List.mem_map.2 ⟨s, List.mem_of_find?_eq_some h, id_of_shape? h⟩

/-- A shape that has not been seen is one shape less once it has. -/
theorem unseen_lt {m : Model} {seen seen' : List ShapeId} {id : ShapeId} {s : Shape}
    (hs : m.shape? id = some s) (hnew : id ∉ seen) (hid : id ∈ seen')
    (hsub : ∀ x ∈ seen, x ∈ seen') :
    m.unseen seen' < m.unseen seen := by
  have key : ∀ l : List ShapeId, (l.filter fun x => !seen'.contains x).length ≤
      (l.filter fun x => !seen.contains x).length ∧
      (id ∈ l → (l.filter fun x => !seen'.contains x).length <
        (l.filter fun x => !seen.contains x).length) := by
    intro l
    induction l with
    | nil => simp
    | cons y l ih =>
      simp only [List.filter_cons, List.mem_cons]
      grind
  exact (key _).2 (mem_ids_of_shape? hs)

end Model

end ClientGen
