import ClientGen.Syntax.Expressions

/-!
# Reading statements

A statement is a binding, an item, a call of a macro or an expression. An expression that does not
stand alone has a semicolon behind it, unless it is the last one.
-/

namespace ClientGen.Syntax.Reader

variable (rules : Rule → Reader Tree)

/-! ## What is next -/

/-- Whether an item is next that a word alone tells. -/
def startsNamedItem (ts : List Token) : Bool :=
  let next := Token.behind ts
  Token.startsOneOf ["pub", "extern", "use", "fn", "mod", "type", "struct", "enum", "trait", "impl",
      "macro"] ts ||
    (Token.startsWord "crate" ts && !Token.starts "::" next) ||
    (Token.startsWord "union" ts && Token.startsName next) ||
    (Token.startsWord "auto" ts && Token.startsWord "trait" next) ||
    (Token.startsWord "default" ts && Token.startsOneOf ["unsafe", "impl"] next)

/-- Whether an item is next that starts like a closure or a block. -/
def startsMarkedItem (ts : List Token) : Bool :=
  let next := Token.behind ts
  let third := Token.behind next
  let startsFunction := Token.startsOneOf ["unsafe", "extern", "fn"]
  (Token.startsWord "static" ts && (Token.startsWord "mut" next || Token.startsName next)) ||
    (Token.startsWord "const" ts && !(Token.startsGroup .brace next ||
      Token.startsOneOf ["static", "move"] next || Token.starts "|" next ||
      (Token.startsWord "async" next && !startsFunction third))) ||
    (Token.startsWord "unsafe" ts && !Token.startsGroup .brace next) ||
    (Token.startsWord "async" ts && startsFunction next)

/-- What a path with a call behind it starts. -/
inductive CallKind
  /-- A macro that defines something under a name. -/
  | definition
  /-- A macro whose braces end the statement. -/
  | statement
  | other

/-- What the path that is next starts, and its text. -/
def callKind : Reader (CallKind × String) := do
  let start ← tokens
  match ← attempt? plainPath with
  | none => return (.other, "")
  | some path =>
    let next := Token.behind (← tokens)
    let third := Token.behind next
    let isCall ← sees (Token.starts "!")
    let goesOn := (Token.starts "." third && !Token.starts ".." third) || Token.starts "?" third
    if isCall && (Token.startsName next || Token.startsWord "try" next) then
      goOn start
      return (.definition, path)
    else if isCall && Token.startsGroup .brace next && !goesOn then return (.statement, path)
    else
      goOn start
      return (.other, path)

/-! ## Statements -/

def binding : Reader Tree := do
  word "let"
  let pattern ← rules .singlePattern
  let pattern ← if ← mark? ":" then Tree.typed pattern <$> rules (.type true) else pure pattern
  if ← mark? "=" then
    let value ← rules (.expression true)
    let otherwise ←
      if !value.endsWithBrace && (← word? "else") then
        some <$> Tree.block .plain [] <$> bracedStatements rules
      else pure none
    mark ";"
    return .bind pattern (some value) otherwise
  else
    mark ";"
    return .bind pattern none none

/-- A call of a macro as a statement, if the expression is one and nothing is done with its
value. -/
def statementCall? (semicolon : Bool) : Tree → Option Tree
  | .attributed attributes inner => (statementCall? semicolon inner).map (.attributed attributes)
  | .invocation m =>
    if semicolon || m.delimiter = .brace then some (.runMacro m semicolon) else none
  | _ => none

def expressionStatement (attributes : List Tree) : Reader Tree := do
  let value ← rules .earlyExpression
  let value := value.withFirstAttributes attributes
  let semicolon ← mark? ";"
  return (statementCall? semicolon value).getD (.run value semicolon)

def statement : Reader Tree := do
  let start ← tokens
  let attributes ← outerAttributes rules
  match ← callKind with
  | (.statement, path) =>
    let call ← macroCall path
    return (Tree.runMacro call (← mark? ";")).withAttributes attributes
  | (.definition, _) =>
    goOn start
    rules .item
  | (.other, _) =>
    if ← sees (Token.startsWord "let") then
      return (← binding rules).withAttributes attributes
    else if ← sees fun ts => startsNamedItem ts || startsMarkedItem ts then
      goOn start
      rules .item
    else expressionStatement rules attributes

def isLast : Tree → Bool
  | .attributed _ inner => isLast inner
  | .run value false => !value.isStatement
  | .runMacro m false => m.delimiter ≠ .brace
  | _ => false

/-- At most so many statements. -/
def statementsUpTo : Nat → Reader (List Tree)
  | 0 => failure
  | n + 1 => do
    if ← atEnd then return []
    else if ← mark? ";" then return .nothing :: (← statementsUpTo n)
    else
      let s ← statement rules
      if isLast s && !(← atEnd) then failure
      return s :: (← statementsUpTo n)

/-- The inside of a block, with or without attributes for what encloses it. -/
def body (attributes : Bool) : Reader Tree := do
  let attributes ← if attributes then innerAttributes rules else pure []
  return .block .plain attributes (← statementsUpTo rules ((← tokens).length + 1))

end ClientGen.Syntax.Reader
