import ClientGen.Syntax.Patterns

/-!
# Reading expressions

Operators are read by their ranks: behind an operator stands everything that holds its parts
together more tightly. A record may not stand where its brace would be taken for a block.
-/

namespace ClientGen.Syntax.Reader

variable (rules : Rule → Reader Tree)

/-! ## Operators -/

/-- The ranks of operators that are not written between two values alone. -/
def assignRank : Nat := 1
def rangeRank : Nat := 2
def comparisonRank : Nat := 6
def castRank : Nat := 13

/-- The operators between two values, with their ranks; a longer one stands before its parts. -/
def operators : List (String × Nat) :=
  [("+=", 1), ("-=", 1), ("*=", 1), ("/=", 1), ("%=", 1), ("^=", 1), ("&=", 1), ("|=", 1),
    ("<<=", 1), (">>=", 1), ("&&", 4), ("||", 3), ("<<", 10), (">>", 10), ("==", 6), ("<=", 6),
    ("!=", 6), (">=", 6), ("+", 11), ("-", 11), ("*", 12), ("/", 12), ("%", 12), ("^", 8),
    ("&", 9), ("|", 7), ("<", 6), (">", 6)]

/-- The operator that the tokens start with, and its rank. -/
def operator? (ts : List Token) : Option (String × Nat) :=
  operators.find? fun (marks, _) => Token.starts marks ts

def startsAssignment (ts : List Token) : Bool := Token.starts "=" ts && !Token.starts "=>" ts

/-- The rank of what follows a value; what is no operator has the least one. -/
def rankOf (ts : List Token) : Nat :=
  match operator? ts with
  | some (_, rank) => rank
  | none =>
    if startsAssignment ts then assignRank
    else if Token.starts ".." ts then rangeRank
    else if Token.startsWord "as" ts then castRank
    else 0

/-- Lets operators of a higher rank than the one before a value take it, at most so many. -/
def takenByOperators (records : Bool) (rank : Nat) : Nat → Tree → Reader Tree
  | 0, _ => failure
  | n + 1, value => do
    let next ← rankOf <$> tokens
    if (rank < next || (next = rank && rank = assignRank)) && !value.isRange then
      takenByOperators records rank n (← rules (.operation records value next))
    else return value

/-- The value behind an operator of a rank. -/
def rightOperand (records : Bool) (rank : Nat) : Reader Tree := do
  let value ← rules (.operand records)
  takenByOperators rules records rank ((← tokens).length + 1) value

def dots : Reader String := do
  if ← mark? "..=" then return "..="
  else if ← sees (Token.starts "...") then failure
  else
    mark ".."
    return ".."

/-- Whether a range has no upper bound. -/
def endsOpenRange (records : Bool) (ts : List Token) : Bool :=
  ts.isEmpty || (Token.starts "." ts && !Token.starts ".." ts) ||
    (!records && Token.startsGroup .brace ts) || Token.startsWord "as" ts ||
    [",", ";", "?", "=>", "=", "+", "/", "%", "^", ">", "<=", "!=", "-=", "*=", "&=", "|=",
      "<<="].any fun marks => Token.starts marks ts

/-- The range that goes on behind its lower bound. -/
def rangeBehind (records : Bool) (start : Option Tree) : Reader Tree := do
  let marks ← dots
  if marks = ".." && (← sees (endsOpenRange records)) then return .range start marks none
  else return .range start marks (some (← rightOperand rules records rangeRank))

/-- Whether something is next that would be taken for a part of a value behind its type. -/
def startsSuffix (ts : List Token) : Bool :=
  (Token.starts "." ts && !Token.starts ".." ts) || Token.starts "?" ts ||
    Token.startsGroup .bracket ts || Token.startsGroup .parenthesis ts

/-- Whether the expression compares two values. -/
def isComparison : Tree → Bool
  | .binary _ marks _ => operators.lookup marks == some comparisonRank
  | _ => false

/-- What an operator of at least a rank makes of a value. -/
def operation (records : Bool) (left : Tree) (least : Nat) : Reader Tree := do
  if left.isRange then return left
  let ts ← tokens
  let goOn (value : Tree) : Reader Tree := rules (.operation records value least)
  match operator? ts with
  | some (marks, rank) =>
    if rank < least then return left
    if rank = comparisonRank && isComparison left then failure
    mark marks
    goOn (.binary left marks (← rightOperand rules records rank))
  | none =>
    if least ≤ assignRank && startsAssignment ts then
      mark "="
      goOn (.assign left (← rightOperand rules records assignRank))
    else if least ≤ rangeRank && Token.starts ".." ts then
      goOn (← rangeBehind rules records (some left))
    else if least ≤ castRank && Token.startsWord "as" ts then
      word "as"
      let type ← rules (.type false)
      if ← sees startsSuffix then failure
      goOn (.cast left type)
    else return left

def expression (records : Bool) : Reader Tree := do
  let first ← rules (.operand records)
  rules (.operation records first 0)

/-! ## Suffixes -/

/-- The fields of a tuple that a number with a point names, one inside the other, and whether the
number ends with the point. -/
def numberedFields? (value : Tree) (text : String) : Option (Tree × Bool) := do
  let digits := text.toList
  let goesOn := digits.getLast? = some '.'
  let parts := (if goesOn then digits.dropLast else digits).splitOn '.'
  let fields ← parts.mapM fun part => fieldNumber? (String.ofList part)
  return (fields.foldl (fun value n => .field value (toString n)) value, goesOn)

def callArguments : Reader (List Tree) := group .parenthesis (commas (rules (.expression true)))

/-- A field or a method of a value, behind the point. -/
def member (value : Tree) : Reader Tree := do
  if ← word? "await" then return .await value
  else
    let isName ← sees Token.startsName
    let name ← fieldName
    if isName && (← mark? "::") then
      let head := Tree.segmentWith name true (← angleArguments rules)
      return .method value head (← callArguments rules)
    else if isName && (← sees (Token.startsGroup .parenthesis)) then
      return .method value (.segment name) (← callArguments rules)
    else return .field value name

/-- What follows the point behind a value. -/
def behindPoint (value : Tree) : Reader Tree := do
  match ← tokens with
  | .literal t :: rest =>
    if Token.isNumber t && t.toList.contains '.' then
      goOn rest
      match numberedFields? value t with
      | some (value, true) => member rules value
      | some (value, false) => return value
      | none => failure
    else member rules value
  | _ => member rules value

/-- A value with at most so many suffixes. -/
def withSuffixes : Nat → Tree → Reader Tree
  | 0, _ => failure
  | n + 1, value => do
    let ts ← tokens
    if Token.startsGroup .parenthesis ts then
      withSuffixes n (.call value (← callArguments rules))
    else if Token.startsGroup .bracket ts then
      withSuffixes n (.index value (← group .bracket (rules (.expression true))))
    else if value.isRange then return value
    else if Token.starts "." ts && !Token.starts ".." ts then
      mark "."
      withSuffixes n (← behindPoint rules value)
    else if ← mark? "?" then withSuffixes n (.attempt value)
    else return value

def suffixed (value : Tree) : Reader Tree := do
  withSuffixes rules ((← tokens).length + 1) value

/-! ## Forms with blocks -/

def bracedStatements : Reader (List Tree) := do
  match ← bracedBody rules false with
  | .block _ _ statements => return statements
  | _ => failure

/-- A block in braces, which may have attributes inside. -/
def block (kind : BlockKind) : Reader Tree := do
  match ← bracedBody rules true with
  | .block _ attributes statements => return .block kind attributes statements
  | _ => failure

/-- A choice between at most so many conditions. -/
def conditional : Nat → Reader Tree
  | 0 => failure
  | n + 1 => do
    word "if"
    let condition ← rules (.expression false)
    let body ← bracedStatements rules
    if ← word? "else" then
      let otherwise ←
        if ← sees (Token.startsWord "if") then conditional n
        else Tree.block .plain [] <$> bracedStatements rules
      return .conditional condition body (some otherwise)
    else return .conditional condition body none

/-- A loop without a condition. -/
def forever (label : Option String) : Reader Tree := do
  word "loop"
  match ← bracedBody rules true with
  | .block _ attributes body => return .forever label attributes body
  | _ => failure

def whileLoop (label : Option String) : Reader Tree := do
  word "while"
  let condition ← rules (.expression false)
  match ← bracedBody rules true with
  | .block _ attributes body => return .whileLoop label condition attributes body
  | _ => failure

def forLoop (label : Option String) : Reader Tree := do
  word "for"
  let pattern ← rules .pattern
  word "in"
  let items ← rules (.expression false)
  match ← bracedBody rules true with
  | .block _ attributes body => return .forLoop label pattern items attributes body
  | _ => failure

/-- A block or a loop behind its label. -/
def labelled : Reader Tree := do
  let label ← lifetime
  mark ":"
  let ts ← tokens
  if Token.startsWord "while" ts then whileLoop rules (some label)
  else if Token.startsWord "for" ts then forLoop rules (some label)
  else if Token.startsWord "loop" ts then forever rules (some label)
  else block rules (.labelled label)

/-- At most so many arms of a choice. -/
def arms : Nat → Reader (List Tree)
  | 0 => failure
  | n + 1 => do
    if ← atEnd then return []
    let attributes ← outerAttributes rules
    let pattern ← rules .pattern
    let guard ← if ← word? "if" then some <$> rules (.expression true) else pure none
    mark "=>"
    let body ← rules .earlyExpression
    if !body.standsAlone && !(← atEnd) then mark "," else let _ ← mark? ","
    return (Tree.arm pattern guard body).withAttributes attributes :: (← arms n)

def choice : Reader Tree := do
  word "match"
  let value ← rules (.expression false)
  group .brace do
    let attributes ← innerAttributes rules
    return .choice value attributes (← arms rules ((← tokens).length + 1))

/-! ## Other forms -/

def closureInput : Reader Tree := do
  let attributes ← outerAttributes rules
  let pattern ← rules .singlePattern
  let input ← if ← mark? ":" then Tree.typed pattern <$> rules (.type true) else pure pattern
  return input.withAttributes attributes

def closure (records : Bool) : Reader Tree := do
  let binder ← binder? rules
  let modes := (← head? "const") ++ (← head? "static") ++ (← head? "async") ++ (← head? "move")
  mark "|"
  let (inputs, _) ← commasUntil (Token.starts "|") (closureInput rules)
  mark "|"
  match ← result? rules true with
  | some output =>
    return .closure binder modes inputs (some output) (.block .plain [] (← bracedStatements rules))
  | none => return .closure binder modes inputs none (← rules (.expression records))

def startsExpression (ts : List Token) : Bool :=
  let starts (marks : String) (longer : List String) : Bool :=
    Token.starts marks ts && !longer.any fun m => Token.starts m ts
  (Token.startsAnyWord ts && !Token.startsWord "as" ts) || Token.startsGroup .parenthesis ts ||
    Token.startsGroup .bracket ts || Token.startsGroup .brace ts || Token.startsLiteral ts ||
    starts "!" ["!="] || starts "-" ["-=", "->"] || starts "*" ["*="] || starts "|" ["|="] ||
    starts "&" ["&="] || starts ".." [] || starts "<" ["<=", "<<="] || starts "::" [] ||
    Token.startsLifetime ts || starts "#" []

/-- The value that a place is left with. -/
def jumpValue? (allowed : Bool) : Reader (Option Tree) := do
  if allowed && (← sees startsExpression) then return some (← rules (.expression true))
  else return none

/-- What leaves a loop or a block. -/
def leaving (records : Bool) : Reader Tree := do
  word "break"
  let label ← lifetime?
  if label.isSome && (← sees (Token.starts ":")) then failure
  let allowed := records || !(← sees (Token.startsGroup .brace))
  return .jump "break" label (← jumpValue? rules allowed)

/-- The fields of a record, at most so many, and where the other ones come from. -/
def recordFields : Nat → Reader (List Tree × Option Tree)
  | 0 => failure
  | n + 1 => do
    if ← atEnd then return ([], none)
    if ← mark? ".." then
      if ← atEnd then return ([], none) else return ([], some (← rules (.expression true)))
    let attributes ← outerAttributes rules
    let isName ← sees Token.startsName
    let name ← fieldName
    let value ←
      if !isName || (← sees (Token.starts ":")) then
        mark ":"
        some <$> rules (.expression true)
      else pure none
    let field := (Tree.fieldValue name value).withAttributes attributes
    if ← atEnd then return ([field], none)
    mark ","
    let (fields, rest) ← recordFields n
    return (field :: fields, rest)

def pathExpression (records : Bool) : Reader Tree := do
  let p ← qualifiedPath rules true
  match p.plainText?, ← seesCall with
  | some text, true => return .invocation (← macroCall text)
  | _, _ =>
    if records && (← sees (Token.startsGroup .brace)) then
      let (fields, rest) ← group .brace do recordFields rules ((← tokens).length + 1)
      return .record p fields rest
    else return p

def parenthesizedExpression : Reader Tree := group .parenthesis do
  match ← commasUntil List.isEmpty (rules (.expression true)) with
  | ([inner], false) => return .parenthesized inner
  | (parts, comma) => return .tuple parts comma

def bracketExpression : Reader Tree := group .bracket do
  if ← atEnd then return .array []
  let first ← rules (.expression true)
  if ← mark? ";" then return .repeated first (← rules (.expression true))
  else if ← atEnd then return .array [first]
  else
    mark ","
    return .array (first :: (← commas (rules (.expression true))))

/-- A pattern that a value is matched with. -/
def matching (records : Bool) : Reader Tree := do
  word "let"
  let pattern ← rules .pattern
  mark "="
  let first ← rules (.operand records)
  return .matching pattern (← rules (.operation records first comparisonRank))

def startsClosure (ts : List Token) : Bool :=
  let next := Token.behind ts
  Token.starts "|" ts || Token.startsOneOf ["move", "static"] ts ||
    (Token.startsWord "for" ts && Token.starts "<" next &&
      (Token.startsLifetime (Token.behind next) || Token.starts ">" (Token.behind next))) ||
    (Token.startsWord "const" ts && !Token.startsGroup .brace next) ||
    (Token.startsWord "async" ts && (Token.starts "|" next || Token.startsWord "move" next))

/-- Whether a block is next that is run later. -/
def startsLaterBlock (ts : List Token) : Bool :=
  let next := Token.behind ts
  Token.startsWord "async" ts && (Token.startsGroup .brace next ||
    (Token.startsWord "move" next && Token.startsGroup .brace (Token.behind next)))

def startsPath (ts : List Token) : Bool :=
  let next := Token.behind ts
  Token.startsSegment ts || Token.starts "::" ts || Token.starts "<" ts ||
    (Token.startsWord "try" ts && (Token.starts "!" next || Token.starts "::" next))

/-- Something that only a part of a language tool can read. -/
def builtinForm : Reader Tree := do
  word "builtin"
  mark "#"
  let _ ← name
  let (d, _) ← anyGroup
  if d = .parenthesis then unusual else failure

/-- An expression without operators and suffixes. -/
def atom (records : Bool) : Reader Tree := do
  let ts ← tokens
  let next := Token.behind ts
  let isBlock := Token.startsGroup .brace next
  if Token.startsLiteral ts then return .literal (← literal)
  else if startsLaterBlock ts then
    word "async"
    let moves ← word? "move"
    return .block (.asynchronous moves) [] (← bracedStatements rules)
  else if Token.startsWord "try" ts && isBlock then
    word "try"
    return .block .attempt [] (← bracedStatements rules)
  else if startsClosure ts then closure rules records
  else if Token.startsWord "builtin" ts && Token.starts "#" next then builtinForm
  else if startsPath ts then pathExpression rules records
  else if Token.startsGroup .parenthesis ts then parenthesizedExpression rules
  else if Token.startsWord "break" ts then leaving rules records
  else if ← word? "continue" then return .jump "continue" (← lifetime?) none
  else if ← word? "return" then return .jump "return" none (← jumpValue? rules true)
  else if ← word? "become" then
    let _ ← rules (.expression true)
    unusual
  else if Token.startsGroup .bracket ts then bracketExpression rules
  else if Token.startsWord "let" ts then matching rules records
  else if Token.startsWord "if" ts then conditional rules (ts.length + 1)
  else if Token.startsWord "while" ts then whileLoop rules none
  else if Token.startsWord "for" ts then forLoop rules none
  else if Token.startsWord "loop" ts then forever rules none
  else if Token.startsWord "match" ts then choice rules
  else if ← word? "yield" then return .jump "yield" none (← jumpValue? rules true)
  else if ← word? "unsafe" then block rules .unchecked
  else if ← word? "const" then block rules .constant
  else if Token.startsGroup .brace ts then block rules .plain
  else if Token.starts ".." ts then rangeBehind rules records none
  else if ← word? "_" then return .sign "_"
  else if Token.startsLifetime ts then labelled rules
  else failure

/-! ## Operands -/

/-- An expression without operators between two values. -/
def operand (records : Bool) : Reader Tree := do
  let attributes ← outerAttributes rules
  let ts ← tokens
  if ← mark? "&" then
    let next := Token.behind (← tokens)
    let raw ← if Token.startsOneOf ["mut", "const"] next then head? "raw" else pure ""
    let modes ← head? "mut"
    let modes ← if raw ≠ "" && modes = "" then do
        word "const"
        pure "const "
      else pure modes
    let inner ← rules (.operand records)
    return (Tree.marked ("&" ++ raw ++ modes) inner).withAttributes attributes
  match ["*", "!", "-"].find? fun marks => Token.starts marks ts with
  | some marks =>
    mark marks
    return (Tree.marked marks (← rules (.operand records))).withAttributes attributes
  | none =>
    let value ← suffixed rules (← atom rules records)
    if value.isRange && !attributes.isEmpty then failure
    return value.withAttributes attributes

/-- An expression that ends early: what stands alone starts no longer expression, unless a point or
a question mark follows. -/
def earlyExpression : Reader Tree := do
  let attributes ← outerAttributes rules
  let ts ← tokens
  let next := Token.behind ts
  let isBlock := Token.startsGroup .brace next
  let first ←
    if Token.startsWord "unsafe" ts then do
      word "unsafe"
      block rules .unchecked
    else if Token.startsLifetime ts then labelled rules
    else if Token.startsOneOf ["if", "while", "loop", "match"] ts || Token.startsGroup .brace ts ||
        (Token.startsWord "for" ts && !startsClosure ts) ||
        (Token.startsOneOf ["try", "const"] ts && isBlock) then
      atom rules true
    else rules (.operand true)
  let follows (ts : List Token) : Bool :=
    (Token.starts "." ts && !Token.starts ".." ts) || Token.starts "?" ts
  if !first.standsAlone then rules (.operation true (first.withAttributes attributes) 0)
  else if ← sees follows then
    let value ← suffixed rules first
    rules (.operation true (value.withAttributes attributes) 0)
  else return first.withAttributes attributes

end ClientGen.Syntax.Reader
