import ClientGen.Model.ShapeId

/-!
# Definitions in the order of their identifiers

A catalog has at most one definition for each identifier. Catalogs with the same definitions are
equal, whatever the order in which these were inserted.
-/

namespace ClientGen

/-- What is defined under an identifier of its own. -/
class Identified (α : Type) where
  idOf : α → ShapeId

open Identified (idOf)

/-- Definitions with strictly ascending identifiers. -/
structure Catalog (α : Type) [Identified α] where
  entries : List α
  sorted : entries.Pairwise fun a b => idOf a < idOf b
deriving DecidableEq

namespace Catalog

variable {α : Type} [Identified α]

/-- A catalog without definitions. -/
def empty : Catalog α := ⟨[], .nil⟩

instance : Inhabited (Catalog α) := ⟨empty⟩

def get? (c : Catalog α) (id : ShapeId) : Option α := c.entries.find? fun a => idOf a = id

def contains (c : Catalog α) (id : ShapeId) : Bool := c.entries.any fun a => idOf a = id

/-- The identifiers, in ascending order. -/
def ids (c : Catalog α) : List ShapeId := c.entries.map idOf

/-- The entries with one more at its place, unless its identifier is taken. -/
def insertSorted? (a : α) : List α → Option (List α)
  | [] => some [a]
  | b :: rest =>
    if idOf a < idOf b then some (a :: b :: rest)
    else if idOf a = idOf b then none
    else (insertSorted? a rest).map (b :: ·)

theorem mem_of_insertSorted? {a : α} {l l' : List α} (h : insertSorted? a l = some l') {x : α} :
    x ∈ l' ↔ x = a ∨ x ∈ l := by
  induction l generalizing l' with
  | nil => cases h; simp
  | cons b rest ih =>
    simp only [insertSorted?] at h
    split at h
    · cases h; simp
    · split at h
      · cases h
      · obtain ⟨m, hm, rfl⟩ := Option.map_eq_some_iff.1 h
        simp only [List.mem_cons, ih hm]
        grind

/-- Insertion keeps the identifiers ascending, so that each stands once. -/
theorem sorted_of_insertSorted? {a : α} {l l' : List α}
    (hl : l.Pairwise fun a b => idOf a < idOf b) (h : insertSorted? a l = some l') :
    l'.Pairwise fun a b => idOf a < idOf b := by
  induction l generalizing l' with
  | nil => cases h; simp
  | cons b rest ih =>
    simp only [insertSorted?] at h
    rw [List.pairwise_cons] at hl
    split at h
    · rename_i hab
      cases h
      simp only [List.pairwise_cons, List.mem_cons, forall_eq_or_imp]
      exact ⟨⟨hab, fun x hx => ShapeId.lt_trans hab (hl.1 x hx)⟩, hl.1, hl.2⟩
    · split at h
      · cases h
      · rename_i hab hne
        obtain ⟨m, hm, rfl⟩ := Option.map_eq_some_iff.1 h
        refine List.pairwise_cons.2 ⟨fun x hx => ?_, ih hl.2 hm⟩
        rcases (mem_of_insertSorted? hm).1 hx with rfl | hx
        · rcases ShapeId.lt_trichotomy (idOf x) (idOf b) with h | h | h
          · exact absurd h hab
          · exact absurd h hne
          · exact h
        · exact hl.1 x hx

/-- The catalog with one more definition, unless its identifier is taken. -/
def insert? (c : Catalog α) (a : α) : Option (Catalog α) :=
  match h : insertSorted? a c.entries with
  | some entries => some ⟨entries, sorted_of_insertSorted? c.sorted h⟩
  | none => none

end Catalog

end ClientGen
