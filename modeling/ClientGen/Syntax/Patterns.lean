import ClientGen.Syntax.Types

/-!
# Reading patterns

A pattern may start like an expression: a path, a literal, or a range of either.
-/

namespace ClientGen.Syntax.Reader

variable (rules : Rule → Reader Tree)

/-! ## Ranges -/

/-- The marks of a range; the older marks of a closed one are allowed in patterns. -/
def patternDots : Reader String := do
  if ← mark? "..=" then return "..="
  else if ← mark? "..." then return "..="
  else
    mark ".."
    return ".."

/-- Whether a range in a pattern has no upper bound. -/
def endsRange (ts : List Token) : Bool :=
  ts.isEmpty || Token.starts "|" ts || Token.starts "=" ts ||
    (Token.starts ":" ts && !Token.starts "::" ts) || Token.starts "," ts ||
    Token.starts ";" ts || Token.startsWord "if" ts

def rangeBound : Reader Tree := do
  let ts ← tokens
  if Token.startsLiteral ts then return .literal (← literal)
  else if Token.startsSegment ts || Token.starts "::" ts || Token.starts "<" ts then
    qualifiedPath rules true
  else
    word "const"
    let body ← bracedBody rules true
    match body with
    | .block _ attributes statements => return .block .constant attributes statements
    | _ => failure

/-- The range that goes on behind its lower bound. -/
def rangeFrom (start : Option Tree) (marks : String) : Reader Tree := do
  if ← sees endsRange then
    if marks = ".." then return .range start marks none else failure
  else return .range start marks (some (← rangeBound rules))

/-! ## Parts of records -/

def fieldLimit : Nat := 4294967295

/-- The digits of a whole number in a base; a low line may stand among them. -/
def digitsValue? (base : Nat) (digits : List Char) : Option Nat :=
  let digits := digits.filter (· ≠ '_')
  if digits.isEmpty then none
  else digits.foldlM (fun value c =>
    if isHexDigit c && hexValue c < base then some (value * base + hexValue c) else none) 0

/-- The number that a literal without a suffix stands for, if a field can have it. -/
def fieldNumber? (text : String) : Option Nat :=
  let value := match text.toList with
    | '0' :: 'x' :: rest => digitsValue? 16 rest
    | '0' :: 'o' :: rest => digitsValue? 8 rest
    | '0' :: 'b' :: rest => digitsValue? 2 rest
    | digits => if Token.isNumber text then digitsValue? 10 digits else none
  value.filter (· ≤ fieldLimit)

def fieldName : Reader String := do
  match ← tokens with
  | .literal t :: rest => match fieldNumber? t with
    | some n =>
      goOn rest
      return toString n
    | none => failure
  | _ => name

def fieldPattern : Reader Tree := do
  let boxed ← word? "box"
  let modes := (← head? "ref") ++ (← head? "mut")
  let ts ← tokens
  let isName := Token.startsName ts
  if (boxed || modes ≠ "") && !isName then failure
  let field ← fieldName
  if !boxed && modes = "" && ((← sees (Token.starts ":")) || !isName) then
    mark ":"
    return .fieldPattern (some field) (← rules .pattern)
  else if boxed then unusual
  else return .fieldPattern none (.binding modes field none)

/-- At most so many fields of a record pattern, and what stands for the other ones. -/
def fieldPatterns : Nat → Reader (List Tree × Option Tree)
  | 0 => failure
  | n + 1 => do
    if ← atEnd then return ([], none)
    let attributes ← outerAttributes rules
    if ← mark? ".." then return ([], some ((Tree.sign "..").withAttributes attributes))
    let field := (← fieldPattern rules).withAttributes attributes
    if ← atEnd then return ([field], none)
    mark ","
    let (fields, rest) ← fieldPatterns n
    return (field :: fields, rest)

/-! ## Patterns -/

def pathPattern : Reader Tree := do
  let p ← qualifiedPath rules true
  match p.plainText?, ← seesCall with
  | some text, true => return .invocation (← macroCall text)
  | _, _ =>
    let ts ← tokens
    if Token.startsGroup .brace ts then
      let (fields, rest) ← group .brace do fieldPatterns rules ((← tokens).length + 1)
      return .recordPattern p fields rest
    else if Token.startsGroup .parenthesis ts then
      return .partsPattern p (← group .parenthesis (commas (rules .pattern)))
    else if Token.starts ".." ts then rangeFrom rules (some p) (← patternDots)
    else return p

/-- A pattern that is a literal or a constant, or a range that starts with one. -/
def literalPattern : Reader Tree := do
  let start ← rangeBound rules
  if ← sees (Token.starts "..") then rangeFrom rules (some start) (← patternDots)
  else return start

def bindingPattern : Reader Tree := do
  let modes := (← head? "ref") ++ (← head? "mut")
  let name ← if ← word? "self" then pure "self" else name
  let inner ← if ← mark? "@" then some <$> rules .singlePattern else pure none
  return .binding modes name inner

/-- A pattern in parentheses, which may be one of several parts. -/
def parenthesizedPattern : Reader Tree := group .parenthesis do
  let (parts, comma) ← commasUntil List.isEmpty (rules .pattern)
  match parts, comma with
  | [.sign ".."], _ => return .patternTuple parts
  | [part], false => return .parenthesized part
  | _, _ => return .patternTuple parts

def isOpenRange : Tree → Bool
  | .range none _ _ | .range _ _ none => true
  | _ => false

/-- Whether a path is next that is more than a name to bind. -/
def startsPathPattern (ts : List Token) : Bool :=
  let next := Token.behind ts
  (Token.startsName ts && (Token.starts "::" next || Token.starts "!" next ||
      Token.startsGroup .brace next || Token.startsGroup .parenthesis next ||
      Token.starts ".." next)) ||
    (Token.startsWord "self" ts && Token.starts "::" next) ||
    Token.starts "::" ts || Token.starts "<" ts || Token.startsOneOf ["Self", "super", "crate"] ts

def singlePattern : Reader Tree := do
  let ts ← tokens
  if startsPathPattern ts then pathPattern rules
  else if ← word? "_" then return .sign "_"
  else if ← word? "box" then
    let _ ← rules .singlePattern
    unusual
  else if Token.starts "-" ts || Token.startsLiteral ts || Token.startsWord "const" ts then
    literalPattern rules
  else if Token.startsOneOf ["ref", "mut", "self"] ts || Token.startsName ts then
    bindingPattern rules
  else if ← mark? "&" then
    let modes ← head? "mut"
    return .marked ("&" ++ modes) (← rules .singlePattern)
  else if Token.startsGroup .parenthesis ts then parenthesizedPattern rules
  else if Token.startsGroup .bracket ts then
    let parts ← group .bracket (commas (rules .pattern))
    if parts.any isOpenRange then failure else return .slicePattern parts
  else if Token.starts ".." ts && !Token.starts "..." ts then
    let marks ← patternDots
    if marks = ".." && (← sees endsRange) then return .sign ".." else rangeFrom rules none marks
  else failure

def startsAlternative (ts : List Token) : Bool :=
  Token.starts "|" ts && !Token.starts "||" ts && !Token.starts "|=" ts

/-- A pattern of one or several alternatives, perhaps with the mark of one at its start. -/
def pattern : Reader Tree := do
  let leading ← mark? "|"
  let first ← rules .singlePattern
  let rest ← collect do
    if ← sees startsAlternative then
      mark "|"
      return some (← rules .singlePattern)
    else return none
  if leading || !rest.isEmpty then return .alternatives (first :: rest) else return first

end ClientGen.Syntax.Reader
