import ClientGen.Syntax.Path

/-!
# Reading types and parameters

A type that follows a pointer or a reference may not be a sum of what it implements, because the
sum would reach further than the pointer. The parameters of an item and the conditions on them are
read here too.
-/

namespace ClientGen.Syntax.Reader

variable (rules : Rule → Reader Tree)

/-! ## Sums of bounds -/

/-- Whether another bound follows a plus sign; it may start with brackets or not. -/
def startsBound (brackets : Bool) (ts : List Token) : Bool :=
  Token.startsAnyWord ts || Token.starts "::" ts || Token.starts "?" ts ||
    Token.startsLifetime ts || Token.startsGroup .parenthesis ts ||
    (brackets && Token.startsGroup .bracket ts)

/-- Whether something is implemented, rather than only a lifetime required. -/
def isRole : Tree → Bool
  | .bound .. | .unusual => true
  | _ => false

/-- Further bounds behind plus signs, which may start with brackets or not. -/
def furtherBounds (captures constants brackets : Bool) : Reader (List Tree) := collect do
  if ← mark? "+" then
    if ← sees (startsBound brackets) then return some (← rules (.bound captures constants))
    else return none
  else return none

/-- What a type implements, which is at least one thing. -/
def bounds (sums captures constants : Bool) : Reader (List Tree) := do
  let first ← rules (.bound captures constants)
  let rest ← if sums then furtherBounds rules captures constants constants else pure []
  let all := first :: rest
  if all.any isRole then return all else failure

/-- Bounds that all stand behind plus signs. -/
def addedBounds : Reader (List Tree) := collect do
  if ← mark? "+" then return some (← rules (.bound false true)) else return none

/-! ## Types in parentheses -/

/-- The inside of the parentheses that a type starts with. -/
inductive Inside
  /-- A whole type. -/
  | whole (t : Tree)
  /-- An optional bound, which starts a sum. -/
  | optional (t : Tree)
  /-- One type, which may be a bound that starts a sum. -/
  | single (t : Tree)

/-- Reads the inside of the parentheses that a type starts with. -/
def insideParentheses : Reader Inside := do
  if ← atEnd then return .whole (.tuple [] false)
  else if ← sees Token.startsLifetime then
    return .whole (.parenthesized (.bounded "" (← bounds rules true false false)))
  else if ← sees (Token.starts "?") then return .optional (← boundInside rules false true)
  else
    let first ← rules (.type true)
    if ← mark? "," then
      let (rest, comma) ← commasUntil List.isEmpty (rules (.type true))
      return .whole (.tuple (first :: rest) comma)
    else return .single first

/-- A type in parentheses as a bound in parentheses, if it can be one. -/
def asBound? : Tree → Option Tree
  | .path none bridge absolute segments =>
    some (.bound true false none (.path none bridge absolute segments))
  | .bounded "" [.bound _ optional binder path] => some (.bound true optional binder path)
  | .bounded "" [other] => some other
  | _ => none

def parenthesizedType (sums : Bool) : Reader Tree := do
  match ← group .parenthesis (insideParentheses rules) with
  | .whole t => return t
  | .optional t => return .bounded "" (t :: (← addedBounds rules))
  | .single t =>
    match asBound? t, sums && (← sees (Token.starts "+")) with
    | some first, true => return .bounded "" (first :: (← addedBounds rules))
    | _, _ => return .parenthesized t

/-! ## Function types -/

/-- The calling convention that a function declares. -/
def convention : Reader String := do
  if ← word? "extern" then
    if ← sees Token.startsString then return "extern " ++ (← literal) ++ " " else return "extern "
  else return ""

/-- Whether a name with a colon is next, which is no path. -/
def startsNamed (isName : List Token → Bool) (ts : List Token) : Bool :=
  isName ts && Token.starts ":" (Token.behind ts) && !Token.starts "::" (Token.behind ts)

/-- Whether a word is next that may name an input. -/
def startsInputName (ts : List Token) : Bool := Token.startsName ts || Token.startsWord "_" ts

/-- An input of a function type; the first one may be the value itself. -/
def functionTypeInput (first : Bool) : Reader Tree := do
  let startsSelf (ts : List Token) : Bool := first && Token.startsWord "self" ts
  if ← sees fun ts => first && Token.startsWord "mut" ts && startsSelf (Token.behind ts) then
    word "mut"
    if ← sees (startsNamed startsSelf) then
      word "self"
      mark ":"
      let _ ← rules (.type true)
    else word "self"
    unusual
  else if ← sees (startsNamed fun ts => startsInputName ts || startsSelf ts) then
    let name ← anyWord
    mark ":"
    return .functionInput (some name) (← rules (.type true))
  else return .functionInput none (← rules (.type true))

/-- Whether inputs of any number are next. -/
def startsVariadic (ts : List Token) : Bool :=
  Token.starts "..." ts || (startsInputName ts && Token.starts ":" (Token.behind ts) &&
    Token.starts "..." (Token.behind (Token.behind ts)))

/-- At most so many inputs of a function type, and what stands for any number more. -/
def functionTypeInputs (first : Bool) : Nat → Reader (List Tree × Option Tree)
  | 0 => failure
  | n + 1 => do
    if ← atEnd then return ([], none)
    let attributes ← outerAttributes rules
    if ← sees startsVariadic then
      let name ← if ← mark? "..." then pure none else do
        let name ← anyWord
        mark ":"
        mark "..."
        pure (some name)
      let _ ← mark? ","
      let variadic := Tree.functionInput name (.sign "...")
      return ([], some (variadic.withAttributes attributes))
    let input ← functionTypeInput rules first
    let input := input.withAttributes attributes
    if ← atEnd then return ([input], none)
    mark ","
    let (rest, variadic) ← functionTypeInputs false n
    return (input :: rest, variadic)

def functionType (binder : Option Tree) : Reader Tree := do
  let unchecked ← head? "unsafe"
  let convention ← convention
  word "fn"
  let (inputs, variadic) ← group .parenthesis do
    functionTypeInputs rules true ((← tokens).length + 1)
  return .functionType binder (unchecked ++ convention) inputs variadic (← result? rules false)

/-! ## Types -/

def pathType (sums : Bool) (binder : Option Tree) : Reader Tree := do
  let p ← qualifiedPath rules false
  match p with
  | .path (some _) .. => return p
  | _ =>
    match p.plainText?, ← seesCall with
    | some text, true => return .invocation (← macroCall text)
    | _, _ =>
      if binder.isSome || (sums && (← sees (Token.starts "+"))) then
        let rest ← if sums then furtherBounds rules false true false else pure []
        return .bounded "" (.bound false false binder p :: rest)
      else return p

/-- A type behind the mark of a pointer. -/
def pointerType : Reader Tree := do
  mark "*"
  let modes ← if ← word? "const" then pure "const " else do
    word "mut"
    pure "mut "
  return .marked ("*" ++ modes) (← rules (.type false))

/-- A type behind the mark of a reference. -/
def referenceType : Reader Tree := do
  mark "&"
  let lifetime := (← lifetime?).map (· ++ " ")
  let mutable ← head? "mut"
  return .marked ("&" ++ lifetime.getD "" ++ mutable) (← rules (.type false))

def bracketType : Reader Tree := group .bracket do
  let element ← rules (.type true)
  if ← mark? ";" then return .repeated element (← rules (.expression true))
  else return .slice element

def typeForm (sums : Bool) : Reader Tree := do
  let binder ← binder? rules
  let ts ← tokens
  if Token.startsOneOf ["fn", "unsafe", "extern"] ts then functionType rules binder
  else if Token.startsSegment ts then pathType rules sums binder
  else if binder.isSome then failure
  else if Token.starts "::" ts || Token.starts "<" ts then pathType rules sums none
  else if Token.startsGroup .parenthesis ts then parenthesizedType rules sums
  else if ← word? "dyn" then
    let star ← mark? "*"
    let all ← bounds rules sums false false
    if star then unusual else return .bounded "dyn " all
  else if Token.startsGroup .bracket ts then bracketType rules
  else if Token.starts "*" ts then pointerType rules
  else if Token.starts "&" ts then referenceType rules
  else if ← mark? "!" then return .sign "!"
  else if ← word? "impl" then return .bounded "impl " (← bounds rules sums true true)
  else if ← word? "_" then return .sign "_"
  else if Token.startsLifetime ts then return .bounded "" (← bounds rules true false false)
  else failure

/-! ## Parameters -/

def typeParameter : Reader Tree := do
  let name ← name
  let stop (ts : List Token) : Bool :=
    Token.starts "," ts || Token.starts ">" ts || Token.starts "=" ts
  let bounds ← if ← mark? ":" then plusSeparated stop (rules (.bound false true)) else pure []
  let default ← if ← mark? "=" then some <$> rules (.type true) else pure none
  return .typeParameter name bounds default

def valueParameter : Reader Tree := do
  word "const"
  let name ← name
  mark ":"
  let type ← rules (.type true)
  let default : Option Tree ← if ← mark? "=" then
      if ← sees startsConstant then some <$> constantArgument rules
      else some <$> (fun w => Tree.path none 0 false [.segment w]) <$> Reader.name
    else pure none
  return .constantParameter name type default

def itemParameter : Reader Tree := do
  let attributes ← outerAttributes rules
  let parameter ←
    if ← sees Token.startsLifetime then lifetimeParameter rules
    else if ← sees (Token.startsWord "const") then valueParameter rules
    else if ← word? "_" then pure (.typeParameter "_" [] none)
    else typeParameter rules
  return parameter.withAttributes attributes

def parameters : Reader (List Tree) := do
  if ← mark? "<" then
    let (all, _) ← commasUntil (Token.starts ">") (itemParameter rules)
    mark ">"
    return all
  else return []

/-! ## Conditions -/

def endsPredicates (ts : List Token) : Bool :=
  ts.isEmpty || Token.startsGroup .brace ts || Token.starts "," ts || Token.starts ";" ts ||
    (Token.starts ":" ts && !Token.starts "::" ts) || Token.starts "=" ts

def predicate : Reader Tree := do
  let ts ← tokens
  if Token.startsLifetime ts && Token.starts ":" (Token.behind ts) then
    let name ← lifetime
    mark ":"
    let stop (ts : List Token) : Bool := endsPredicates ts || Token.starts ":" ts
    return .lifetimePredicate name (← plusSeparated stop lifetime)
  else
    let binder ← binder? rules
    let type ← rules (.type true)
    mark ":"
    return .typePredicate binder type (← plusSeparated endsPredicates (rules (.bound false true)))

/-- At most so many conditions on parameters. -/
def predicatesUpTo : Nat → Reader (List Tree)
  | 0 => failure
  | n + 1 => do
    if ← sees endsPredicates then return []
    let p ← predicate rules
    if ← mark? "," then return p :: (← predicatesUpTo n) else return [p]

/-- The conditions on parameters, if there is a place for them. -/
def predicates? : Reader (Option (List Tree)) := do
  if ← word? "where" then
    return some (← predicatesUpTo rules ((← tokens).length + 1))
  else return none

def predicates : Reader (List Tree) := do return (← predicates? rules).getD []

end ClientGen.Syntax.Reader
