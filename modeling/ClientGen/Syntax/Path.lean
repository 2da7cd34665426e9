import ClientGen.Syntax.Reader

/-!
# Reading attributes, paths and bounds

The arguments of a path may be types, values and bounds, and a bound is a path again; what refers
back is left to the rules.
-/

namespace ClientGen.Syntax

/-- The text of a path, if none of its parts has arguments. -/
def Tree.plainText? : Tree → Option String
  | .path none _ absolute segments => do
    let names ← segments.mapM fun
      | .segment name => some name
      | _ => none
    return (if absolute then "::" else "") ++ "::".intercalate names
  | _ => none

namespace Reader

/-! ## Plain paths and macros -/

/-- A part of a path without arguments. -/
def plainSegment : Reader String := do
  if ← sees Token.startsSegment then anyWord else failure

def plainPath : Reader String := do
  let colons ← mark? "::"
  let first ← plainSegment
  let rest ← collect do
    if ← mark? "::" then return some (← plainSegment) else return none
  return (if colons then "::" else "") ++ "::".intercalate (first :: rest)

/-- Whether a macro is called behind a path. -/
def seesCall : Reader Bool := sees fun ts => Token.starts "!" ts && !Token.starts "!=" ts

/-- A call of the macro that a path names. -/
def macroCall (path : String) : Reader MacroCall := do
  mark "!"
  let (d, inner) ← anyGroup
  return ⟨path, d, inner⟩

variable (rules : Rule → Reader Tree)

/-! ## Attributes -/

/-- An attribute, which may be one for what encloses it. -/
def readAttribute (inside : Bool) : Reader Tree := do
  mark "#"
  if inside then mark "!"
  group .bracket do
    let path ← if ← word? "unsafe" then pure "unsafe" else plainPath
    match ← tokens with
    | .group .. :: _ =>
      let (d, inner) ← anyGroup
      return .attributeTokens inside path d inner
    | ts =>
      if Token.starts "=" ts && !Token.starts "==" ts && !Token.starts "=>" ts then
        mark "="
        let alone : Reader String := do
          let t ← literal
          if ← atEnd then return t else failure
        match ← attempt? alone with
        | some t => return .attributeValue inside path (.literal t)
        | none =>
          if ← sees fun ts => Token.starts "#" ts && Token.startsGroup .bracket (Token.behind ts)
          then failure
          return .attributeValue inside path (← rules (.expression true))
      else return .attributeName inside path

def outerAttributes : Reader (List Tree) := collect do
  if ← sees (Token.starts "#") then return some (← readAttribute rules false) else return none

def innerAttributes : Reader (List Tree) := collect do
  if ← sees fun ts => Token.starts "#" ts && Token.starts "!" (Token.behind ts) then
    return some (← readAttribute rules true)
  else return none

/-! ## Binders -/

/-- A lifetime that is bound, and those that it outlives. -/
def lifetimeParameter : Reader Tree := do
  let attributes ← outerAttributes rules
  let name ← lifetime
  let stop (ts : List Token) : Bool := ts.isEmpty || Token.starts "," ts || Token.starts ">" ts
  let bounds ← if ← mark? ":" then plusSeparated stop lifetime else pure []
  return (Tree.lifetimeParameter name bounds).withAttributes attributes

/-- The lifetimes that what follows binds, if it binds some. -/
def binder? : Reader (Option Tree) := do
  if ← word? "for" then
    mark "<"
    let (parameters, _) ← commasUntil (Token.starts ">") (lifetimeParameter rules)
    mark ">"
    return some (.binder parameters)
  else return none

/-! ## Arguments -/

/-- The inside of a block in braces. -/
def bracedBody (attributes : Bool) : Reader Tree := group .brace (rules (.body attributes))

/-- A value that stands for itself or in braces. -/
def constantArgument : Reader Tree := do
  if ← sees Token.startsLiteral then return .literal (← literal)
  else bracedBody rules true

/-- Whether a value stands for itself or in braces. -/
def startsConstant (ts : List Token) : Bool :=
  Token.startsLiteral ts || Token.startsGroup .brace ts

def argument : Reader Tree := do
  let ts ← tokens
  if Token.startsLifetime ts && !Token.starts "+" (Token.behind ts) then
    return .lifetime (← lifetime)
  else if startsConstant ts then constantArgument rules
  else
    let type ← rules (.type true)
    let head? := match type with
      | .path none _ false [.segmentCall ..] => none
      | .path none _ false [segment] => some segment
      | _ => none
    match head? with
    | none => return type
    | some head =>
      if ← mark? "=" then
        if ← sees startsConstant then return .argumentValue head (← constantArgument rules)
        else return .argumentValue head (← rules (.type true))
      else if ← mark? ":" then
        let stop (ts : List Token) : Bool := Token.starts "," ts || Token.starts ">" ts
        return .argumentBounds head (← plusSeparated stop (rules (.bound false true)))
      else return type

def angleArguments : Reader (List Tree) := do
  mark "<"
  let (arguments, _) ← commasUntil (Token.starts ">") (argument rules)
  mark ">"
  return arguments

/-- The type of a result, with or without a sum of what it implements. -/
def result? (sums : Bool) : Reader (Option Tree) := do
  if ← mark? "->" then return some (← rules (.type sums)) else return none

/-! ## Paths -/

/-- Whether arguments in angle brackets follow a part of a path. In the path of a value they stand
behind colons, as the bracket could be an operator. -/
def startsArguments (ofValue : Bool) (ts : List Token) : Bool :=
  (!ofValue && Token.starts "<" ts && !Token.starts "<=" ts && !Token.starts "<<=" ts) ||
    (Token.starts "::" ts && Token.starts "<" (Token.behind (Token.behind ts)))

def segment (ofValue : Bool) : Reader Tree := do
  if ← sees (Token.startsOneOf ["super", "self", "crate", "try"]) then
    return .segment (← anyWord)
  else
    let name ← if ← sees (Token.startsWord "Self") then anyWord else name
    if ← sees (startsArguments ofValue) then
      let _ ← mark? "::"
      return .segmentWith name ofValue (← angleArguments rules)
    else return .segment name

def path (ofValue : Bool) : Reader Tree := do
  let absolute ← mark? "::"
  let first ← segment rules ofValue
  let goesOn (ts : List Token) : Bool :=
    Token.starts "::" ts && !Token.startsGroup .parenthesis (Token.behind (Token.behind ts))
  let rest ← collect do
    if ← sees goesOn then
      mark "::"
      return some (← segment rules ofValue)
    else return none
  return .path none 0 absolute (first :: rest)

/-- A path that may start from a type, perhaps in its role as an interface. -/
def qualifiedPath (ofValue : Bool) : Reader Tree := do
  if ← mark? "<" then
    let base ← rules (.type true)
    let role ← if ← word? "as" then some <$> path rules false else pure none
    mark ">"
    mark "::"
    let first ← segment rules ofValue
    let rest ← collect do
      if ← mark? "::" then return some (← segment rules ofValue) else return none
    match role with
    | some (.path _ _ absolute bridge) =>
      return .path (some base) bridge.length absolute (bridge ++ first :: rest)
    | _ => return .path (some base) 0 true (first :: rest)
  else path rules ofValue

/-! ## Bounds -/

/-- The path of a bound, whose last part may name a function type. -/
def boundPath : Reader Tree := do
  let p ← path rules false
  let isCall (ts : List Token) : Bool := Token.startsGroup .parenthesis ts ||
    (Token.starts "::" ts && Token.startsGroup .parenthesis (Token.behind (Token.behind ts)))
  let name? := match p with
    | .path _ _ _ segments => match segments.getLast? with
      | some (.segment name) | some (.segmentWith name _ []) => some name
      | _ => none
    | _ => none
  match p, name? with
  | .path _ _ absolute segments, some name =>
    if ← sees isCall then
      let _ ← mark? "::"
      let inputs ← group .parenthesis (commas (rules (.type true)))
      let output ← result? rules false
      return .path none 0 absolute (segments.dropLast ++ [.segmentCall name inputs output])
    else return p
  | _, _ => return p

/-- What a bound requires, apart from parentheses around it. -/
def boundInside (constants wrapped : Bool) : Reader Tree := do
  let binder ← binder? rules
  let isConstant ←
    if ← sees (Token.startsGroup .bracket) then
      group .bracket (word "const")
      pure true
    else word? "const"
  if isConstant && !constants then failure
  let optional ← mark? "?"
  let binder ← if optional && binder.isNone then binder? rules else pure binder
  let p ← boundPath rules
  if isConstant then unusual else return .bound wrapped optional binder p

def captured : Reader Tree := do
  word "use"
  mark "<"
  let capture : Reader String := do
    if ← sees Token.startsLifetime then lifetime
    else if ← sees (Token.startsWord "Self") then anyWord
    else name
  let (names, _) ← commasUntil (Token.starts ">") capture
  mark ">"
  return .captures names

/-- One of the things that a type implements. -/
def bound (captures constants : Bool) : Reader Tree := do
  if ← sees Token.startsLifetime then return .lifetime (← lifetime)
  else if ← sees (Token.startsWord "use") then
    let t ← captured
    if captures then return t else failure
  else if ← sees (Token.startsGroup .parenthesis) then
    group .parenthesis (boundInside rules constants true)
  else boundInside rules constants false

end Reader

end ClientGen.Syntax
