import ClientGen.Syntax.Grammar

/-!
# The outline of source text

Types, interfaces and implementations in order, each with the names of what it holds. An
implementation shows its functions, and the last name of the interface.
-/

namespace ClientGen.Syntax

/-- An item with the names of what it holds. -/
def outlineLine (item : String) (names : List String) : String :=
  item ++ ": " ++ " ".intercalate names

namespace Tree

/-- The name of a field, a variant or a function. -/
def name? : Tree → Option String
  | attributed _ inner => inner.name?
  | fieldItem _ name _ => name
  | variant name .. | function _ name .. => some name
  | _ => none

def lastName : Tree → String
  | path _ _ _ segments => match segments.getLast? with
    | some (segment name) | some (segmentWith name _ _) | some (segmentCall name _ _) => name
    | _ => ""
  | _ => ""

/-- The line of an item, if it is shown. -/
def outline? : Tree → Option String
  | attributed _ inner => inner.outline?
  | productType head name _ _ _ fields =>
    if head.endsWith "struct " then some (outlineLine s!"struct {name}" (fields.filterMap name?))
    else none
  | sumType _ name _ _ variants => some (outlineLine s!"enum {name}" (variants.filterMap name?))
  | interface _ name _ _ _ _ items => some (outlineLine s!"trait {name}" (items.filterMap name?))
  | implementation _ _ _ role type _ _ items =>
    let of := role.elim "" fun t => t.lastName ++ " for "
    some (outlineLine ("impl " ++ of ++ type.lastName) (items.filterMap name?))
  | _ => none

end Tree

def SourceTree.outline (t : SourceTree) : List String := t.items.filterMap Tree.outline?

end ClientGen.Syntax
