import ClientGen.Syntax.Items

/-!
# Source text by its rules

Every rule refers to others by going one level deeper, and reading ends because it goes only so deep
as the tokens can need.
-/

namespace ClientGen.Syntax

/-- Reads by a rule, going at most so deep. -/
def read : Nat → Rule → Reader Tree
  | 0, _ => failure
  | depth + 1, rule =>
    let rules := read depth
    match rule with
    | .type sums => Reader.typeForm rules sums
    | .bound captures constants => Reader.bound rules captures constants
    | .expression records => Reader.expression rules records
    | .operand records => Reader.operand rules records
    | .operation records left least => Reader.operation rules records left least
    | .earlyExpression => Reader.earlyExpression rules
    | .pattern => Reader.pattern rules
    | .singlePattern => Reader.singlePattern rules
    | .body attributes => Reader.body rules attributes
    | .fields => Reader.namedFields rules
    | .item => Reader.item rules

/-- Deep enough for tokens: between two tokens that are taken lie only so many rules. -/
def depthFor (ts : List Token) : Nat := 64 * (Token.listSize ts + 1)

/-- What a reader makes of all tokens, and whether something in them has no usual written form. -/
def readAll? {α : Type} (r : Reader α) (ts : List Token) : Option (α × Bool) :=
  match r ⟨ts, false⟩ with
  | some (a, ⟨[], hasUnusual⟩) => some (a, hasUnusual)
  | _ => none

/-- The tokens of a text that is all of what the rule reads. -/
def tokensBy? (rule : Rule) (text : String) : Option (List Token) := do
  let ts ← Token.ofText? text
  let _ ← readAll? (read (depthFor ts) rule) ts
  return ts

def typeTokens? (text : String) : Option (List Token) := tokensBy? (.type true) text

def expressionTokens? (text : String) : Option (List Token) := tokensBy? (.expression true) text

/-- A whole text, as its attributes and its items. -/
structure SourceTree where
  attributes : List Tree
  items : List Tree
  /-- Whether something in the text has no usual written form. -/
  hasUnusual : Bool
  /-- How deep the trees are at most. -/
  depth : Nat

/-- Reads attributes and items. -/
def wholeText (rules : Rule → Reader Tree) : Reader (List Tree × List Tree) := do
  return (← Reader.innerAttributes rules, ← Reader.all (rules .item))

def SourceTree.ofText? (text : String) : Option SourceTree := do
  let ts ← Token.ofText? text
  let depth := depthFor ts
  let ((attributes, items), hasUnusual) ← readAll? (wholeText (read depth)) ts
  return ⟨attributes, items, hasUnusual, depth⟩

end ClientGen.Syntax
