import ClientGen.Order.SortedSet

/-!
# Imports of a module

Names taken from other modules, in ascending order. A module imports all its names from one other
module on one line.
-/

namespace ClientGen

structure Import where
  ns : String
  name : String
  /-- The name under which it is known. -/
  localName : Option String
deriving DecidableEq

namespace Import

/-- By module, then by name, then by local name; none comes first. -/
protected def lt (a b : Import) : Prop :=
  a.ns < b.ns ∨ (a.ns = b.ns ∧ (a.name < b.name ∨ (a.name = b.name ∧ a.localName < b.localName)))

instance : LT Import := ⟨Import.lt⟩

instance (a b : Import) : Decidable (a < b) :=
  inferInstanceAs (Decidable (a.ns < b.ns ∨ (a.ns = b.ns ∧
    (a.name < b.name ∨ (a.name = b.name ∧ a.localName < b.localName)))))

/-- The name in the list of a line. -/
def entry (i : Import) : String :=
  match i.localName with
  | some localName => s!"{i.name} as {localName}"
  | none => i.name

/-- The line for the imports of one module. -/
def line (ns : String) : List Import → String
  | [i] => s!"use {ns}::{i.entry};"
  | is => "use " ++ ns ++ "::\x7b" ++ ", ".intercalate (is.map entry) ++ "\x7d;"

/-- The lines for imports in ascending order. -/
def lines (imports : List Import) : List String :=
  (imports.splitBy fun a b => a.ns == b.ns).filterMap fun group =>
    group.head?.map fun i => line i.ns group

end Import

end ClientGen
