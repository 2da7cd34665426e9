/-!
# Identifiers of shapes, operations and services

An identifier is a namespace and a name, written `namespace#Name`; identifiers are ordered by
namespace, then by name.
-/

namespace ClientGen

structure ShapeId where
  ns : String
  name : String
deriving DecidableEq, Hashable, Inhabited

namespace ShapeId

def text (id : ShapeId) : String := id.ns ++ "#" ++ id.name

instance : ToString ShapeId := ⟨text⟩

/-- By namespace, then by name, both character by character. -/
protected def lt (a b : ShapeId) : Prop := a.ns < b.ns ∨ (a.ns = b.ns ∧ a.name < b.name)

instance : LT ShapeId := ⟨ShapeId.lt⟩

instance (a b : ShapeId) : Decidable (a < b) :=
  inferInstanceAs (Decidable (a.ns < b.ns ∨ (a.ns = b.ns ∧ a.name < b.name)))

theorem lt_iff {a b : ShapeId} : a < b ↔ a.ns < b.ns ∨ (a.ns = b.ns ∧ a.name < b.name) := Iff.rfl

theorem lt_irrefl (a : ShapeId) : ¬a < a := by
  rintro (h | ⟨_, h⟩) <;> exact String.lt_irrefl _ h

theorem lt_trans {a b c : ShapeId} (hab : a < b) (hbc : b < c) : a < c := by
  rcases hab with hab | ⟨hab, hab'⟩ <;> rcases hbc with hbc | ⟨hbc, hbc'⟩
  · exact .inl (String.lt_trans hab hbc)
  · exact .inl (hbc ▸ hab)
  · exact .inl (hab ▸ hbc)
  · exact .inr ⟨hab.trans hbc, String.lt_trans hab' hbc'⟩

theorem lt_trichotomy (a b : ShapeId) : a < b ∨ a = b ∨ b < a := by
  by_cases h₁ : a.ns < b.ns
  · exact .inl (.inl h₁)
  by_cases h₂ : b.ns < a.ns
  · exact .inr (.inr (.inl h₂))
  have hns : a.ns = b.ns := String.le_antisymm h₂ h₁
  by_cases h₃ : a.name < b.name
  · exact .inl (.inr ⟨hns, h₃⟩)
  by_cases h₄ : b.name < a.name
  · exact .inr (.inr (.inr ⟨hns.symm, h₄⟩))
  have hname : a.name = b.name := String.le_antisymm h₄ h₃
  exact .inr (.inl (by cases a; cases b; simp_all))

/-- The two parts of a text at its first number sign. -/
def split (text : List Char) : List Char × List Char :=
  (text.takeWhile (· != '#'), (text.dropWhile (· != '#')).drop 1)

/-- Reads an identifier: two parts that are not empty, with one number sign between them. -/
def ofText? (text : String) : Option ShapeId :=
  let (ns, name) := split text.toList
  if !ns.isEmpty && !name.isEmpty && !name.contains '#' then
    some ⟨String.ofList ns, String.ofList name⟩
  else none

/-- The namespace of the shapes that every model may use. -/
def preludeNamespace : String := "stencil.api"

def prelude (name : String) : ShapeId := ⟨preludeNamespace, name⟩

example : ofText? "a.b#C" = some ⟨"a.b", "C"⟩ := by decide
example : ofText? "a#b#c" = none ∧ ofText? "#b" = none ∧ ofText? "a#" = none := by decide

end ShapeId

end ClientGen
