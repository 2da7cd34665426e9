import ClientGen.Code.Writer
import ClientGen.Format.File
import ClientGen.Syntax.Outline

/-!
# Formatted modules

A module leaves the library only if it is source text, and only in its usual written form. Names of
the model end up as identifiers, and not every one of them can be one.
-/

namespace ClientGen

open Syntax

structure FormattedUnit where
  tree : SourceTree
  /-- In ascending order. -/
  dependencies : List Dependency

namespace FormattedUnit

def text (u : FormattedUnit) : String := generatedMarker ++ "\n\n" ++ Format.text u.tree

/-- The lines of the module's items. -/
def outline (u : FormattedUnit) : List String := u.tree.outline

end FormattedUnit

/-- The module, if it is source text that has a usual written form. -/
def SourceUnit.formatted (u : SourceUnit) : Except GenerationError FormattedUnit :=
  match SourceTree.ofText? u.source with
  | none => .error (.invalidModule u.ns)
  | some t => if t.hasUnusual then .error (.unusualModule u.ns) else .ok ⟨t, u.dependencies⟩

end ClientGen
