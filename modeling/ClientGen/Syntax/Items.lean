import ClientGen.Syntax.Statements

/-!
# Reading items

Some items may be read and yet have no usual written form: a function without a body, a constant
with parameters, and others that no program may have in the end.
-/

namespace ClientGen.Syntax.Reader

/-! ## Heads -/

/-- Where a path leads that is shown without a word before it. -/
def plainReaches : List String := ["crate", "self", "super"]

/-- How far an item is seen, with a blank behind it. Parentheses that do not say that belong to what
follows. -/
def visibility : Reader String := do
  if !(← word? "pub") then return ""
  match ← tokens with
  | .group .parenthesis [.word w] :: rest =>
    if plainReaches.contains w then
      goOn rest
      return s!"pub({w}) "
    else return "pub "
  | .group .parenthesis (.word "in" :: _) :: _ =>
    let path ← group .parenthesis do
      word "in"
      plainPath
    return if plainReaches.contains path then s!"pub({path}) " else s!"pub(in {path}) "
  | _ => return "pub "

/-- The tokens behind the word, if they start with it. -/
def pastWord (w : String) (ts : List Token) : List Token :=
  if Token.startsWord w ts then Token.behind ts else ts

/-- Whether the head of a function is next. Where functions are only declared, they may be marked as
safe. -/
def startsSignature (declared : Bool) (ts : List Token) : Bool :=
  let ts := pastWord "async" (pastWord "const" ts)
  let ts := if declared && Token.startsWord "safe" ts then Token.behind ts else pastWord "unsafe" ts
  let ts :=
    if Token.startsWord "extern" ts then
      let ts := Token.behind ts
      if Token.startsString ts then Token.behind ts else ts
    else ts
  Token.startsWord "fn" ts

/-- Whether a path is next that names a macro. -/
def startsMacroPath (ts : List Token) : Bool :=
  Token.startsName ts || Token.startsOneOf ["self", "super", "crate"] ts || Token.starts "::" ts

variable (rules : Rule → Reader Tree)

/-! ## Functions -/

/-- The value that a method belongs to. -/
def receiver : Reader Tree := do
  let reference ← mark? "&"
  let lifetime ← if reference then Option.map (· ++ " ") <$> lifetime? else pure none
  let mutable ← head? "mut"
  word "self"
  let text := (if reference then "&" else "") ++ lifetime.getD "" ++ mutable ++ "self"
  if !reference && (← mark? ":") then return .typed (.sign text) (← rules (.type true))
  else return .sign text

inductive Input
  | receiver (t : Tree)
  | plain (t : Tree)
  /-- What stands for any number of inputs. -/
  | variadic (t : Tree)

/-- An input of a function. A type with arguments may stand without a name. -/
def input : Reader Input := do
  if ← mark? "..." then return .variadic (.sign "...")
  match ← attempt? (receiver rules) with
  | some t => return .receiver t
  | none =>
    if ← sees fun ts => Token.startsName ts && Token.starts "<" (Token.behind ts) then
      return .plain (.typed (.sign "_") (← rules (.type true)))
    let pattern ← rules .singlePattern
    mark ":"
    if ← mark? "..." then return .variadic (.typed pattern (.sign "..."))
    else return .plain (.typed pattern (← rules (.type true)))

/-- At most so many inputs of a function, and what stands for any number more. Only the first one
may be the value that a method belongs to. -/
def inputs (first : Bool) : Nat → Reader (List Tree × Option Tree)
  | 0 => failure
  | n + 1 => do
    if ← atEnd then return ([], none)
    let attributes ← outerAttributes rules
    let next (t : Tree) : Reader (List Tree × Option Tree) := do
      let t := t.withAttributes attributes
      if ← atEnd then return ([t], none)
      mark ","
      let (rest, variadic) ← inputs false n
      return (t :: rest, variadic)
    match ← input rules with
    | .variadic t =>
      let _ ← mark? ","
      return ([], some (t.withAttributes attributes))
    | .receiver t => if first then next t else failure
    | .plain t => next t

/-- A function up to its body, which is read by itself. -/
def function (head : String) (body : Reader (Option Tree)) : Reader Tree := do
  let modes := (← head? "const") ++ (← head? "async") ++ (← head? "unsafe") ++ (← convention)
  word "fn"
  let name ← name
  let parameters ← parameters rules
  let (inputs, variadic) ← group .parenthesis do
    inputs rules true ((← tokens).length + 1)
  let output ← result? rules true
  let predicates ← predicates rules
  return .function (head ++ modes) name parameters inputs variadic output predicates (← body)

/-- A body in braces, or a semicolon in its place. -/
def body? : Reader (Option Tree) := do
  if ← mark? ";" then return none else return some (← bracedBody rules true)

def functionItem (head : String) : Reader Tree := do
  match ← function rules head (body? rules) with
  | .function _ _ _ _ _ _ _ none => unusual
  | t => return t

/-! ## Constants and names of types -/

/-- A constant; whether it has parameters or conditions, which no constant has in the end. -/
def constant (head : String) : Reader (Tree × Bool) := do
  word "const"
  let name ← nameOrBlank
  let isGeneric ← sees (Token.starts "<")
  let _ ← parameters rules
  mark ":"
  let type ← rules (.type true)
  let value ← if ← mark? "=" then some <$> rules (.expression true) else pure none
  let predicates ← predicates? rules
  mark ";"
  return (.constant (head ++ "const ") name type value, isGeneric || predicates.isSome)

def constantItem (head : String) : Reader Tree := do
  match ← constant rules head with
  | (.constant head name type (some value), false) => return .constant head name type (some value)
  | _ => unusual

def staticItem (head : String) : Reader Tree := do
  word "static"
  let mutable ← head? "mut"
  let name ← name
  if ← mark? "=" then
    let _ ← rules (.expression true)
    mark ";"
    unusual
  else
    mark ":"
    let type ← rules (.type true)
    if ← mark? ";" then unusual
    else
      mark "="
      let value ← rules (.expression true)
      mark ";"
      return .constant (head ++ "static " ++ mutable) name type (some value)

/-- What a type item says of the name: what it implements, if there is a place for that, and what it
is. -/
structure TypeItem where
  name : String
  parameters : List Tree
  bounds : Option (List Tree)
  predicates : List Tree
  type : Option Tree

/-- A type item. Its conditions stand before the type, behind it, or in one of these places. -/
def typeItem (before after : Bool) : Reader TypeItem := do
  word "type"
  let name ← name
  let parameters ← parameters rules
  let stop (ts : List Token) : Bool :=
    Token.startsWord "where" ts || Token.starts "=" ts || Token.starts ";" ts
  let bounds ←
    if ← mark? ":" then some <$> plusSeparated stop (rules (.bound false true)) else pure none
  let first ← if before then predicates? rules else pure none
  let type ← if ← mark? "=" then some <$> rules (.type true) else pure none
  let second ← if after && first.isNone then predicates? rules else pure none
  mark ";"
  return ⟨name, parameters, bounds, (first.or second).getD [], type⟩

/-- A type item that only gives a name to a type. -/
def synonymItem (head : String) (first : Bool) : Reader Tree := do
  match ← typeItem rules first (!first) with
  | ⟨name, parameters, none, predicates, some type⟩ =>
    return .synonym (head ++ "type ") name parameters [] predicates (some type) first
  | _ => unusual

/-! ## Types -/

/-- A field with a name. A field without one may hold further fields. -/
def namedField : Reader Tree := do
  let attributes ← outerAttributes rules
  let visibility ← visibility
  let name ← nameOrBlank
  mark ":"
  let startsFields (ts : List Token) : Bool := name == "_" && (Token.startsWord "struct" ts ||
    (Token.startsWord "union" ts && Token.startsGroup .brace (Token.behind ts)))
  let type ←
    if ← sees startsFields then do
      let _ ← anyWord
      let _ ← group .brace (rules .fields)
      unusual
    else rules (.type true)
  return (Tree.fieldItem visibility (some name) type).withAttributes attributes

def namedFields : Reader Tree := do
  return .productType "" "" [] [] .named (← commas (namedField rules))

def positionalField : Reader Tree := do
  let attributes ← outerAttributes rules
  let visibility ← visibility
  return (Tree.fieldItem visibility none (← rules (.type true))).withAttributes attributes

def bracedFields : Reader (List Tree) := group .brace (commas (namedField rules))

def listedFields : Reader (List Tree) := group .parenthesis (commas (positionalField rules))

/-- A type of values with fields. -/
def productItem (head : String) : Reader Tree := do
  word "struct"
  let head := head ++ "struct "
  let name ← name
  let parameters ← parameters rules
  let before ← predicates? rules
  if before.isNone && (← sees (Token.startsGroup .parenthesis)) then
    let fields ← listedFields rules
    let predicates ← predicates rules
    mark ";"
    return .productType head name parameters predicates .positional fields
  else if ← sees (Token.startsGroup .brace) then
    return .productType head name parameters (before.getD []) .named (← bracedFields rules)
  else
    mark ";"
    return .productType head name parameters (before.getD []) .absent []

/-- A type of values that share their place. -/
def unionItem (head : String) : Reader Tree := do
  word "union"
  let name ← name
  let parameters ← parameters rules
  let predicates ← predicates rules
  return .productType (head ++ "union ") name parameters predicates .named (← bracedFields rules)

/-- One of the forms of a value. -/
def variant : Reader Tree := do
  let attributes ← outerAttributes rules
  let _ ← visibility
  let name ← name
  let (kind, fields) ←
    if ← sees (Token.startsGroup .brace) then pure (FieldsKind.named, ← bracedFields rules)
    else if ← sees (Token.startsGroup .parenthesis) then
      pure (FieldsKind.positional, ← listedFields rules)
    else pure (FieldsKind.absent, [])
  let discriminant ← if ← mark? "=" then some <$> rules (.expression true) else pure none
  return (Tree.variant name kind fields discriminant).withAttributes attributes

/-- A type of values with several forms. -/
def sumItem (head : String) : Reader Tree := do
  word "enum"
  let name ← name
  let parameters ← parameters rules
  let predicates ← predicates rules
  let variants ← group .brace (commas (variant rules))
  return .sumType (head ++ "enum ") name parameters predicates variants

/-! ## Macros -/

def endMacro (call : MacroCall) : Reader Unit := do
  if call.delimiter ≠ .brace then mark ";"

/-- A call of a macro among the items of a type or an interface. -/
def macroMember : Reader Tree := do
  let call ← macroCall (← plainPath)
  endMacro call
  return .macroItem call none

/-- A macro as an item. The rules that define one have a form of their own. -/
def macroItem : Reader Tree := do
  let path ← plainPath
  mark "!"
  let name ←
    if (← sees Token.startsName) || (← sees (Token.startsWord "try")) then some <$> anyWord
    else pure none
  let (d, inner) ← anyGroup
  let call : MacroCall := ⟨path, d, inner⟩
  endMacro call
  if path = "macro_rules" && name.isSome && (inner.foldlM RulePlace.next? .start).isNone then
    unusual
  else return .macroItem call name

def newMacro : Reader Tree := do
  word "macro"
  let _ ← name
  let (d, _) ← anyGroup
  if d = .parenthesis then
    let (d, _) ← anyGroup
    if d ≠ .brace then failure
  else if d ≠ .brace then failure
  unusual

/-! ## Interfaces -/

/-- What a type has to implement, up to where the condition holds. -/
def roleBounds (stop : List Token → Bool) : Reader (List Tree) :=
  plusSeparated stop (rules (.bound false true))

def interfaceItem : Reader Tree := do
  let attributes ← outerAttributes rules
  let visibility ← visibility
  let default ← head? "default"
  let isPlain := visibility = "" && default = ""
  let ts ← tokens
  let next := Token.behind ts
  let t ←
    if startsSignature false ts then function rules "" (body? rules)
    else if Token.startsWord "const" ts && (Token.startsName next || Token.startsWord "_" next) then
      let (t, isGeneric) ← constant rules ""
      if isGeneric then unusual else pure t
    else if Token.startsWord "type" ts then
      let ⟨name, parameters, bounds, predicates, type⟩ ← typeItem rules false true
      pure (.synonym "type " name parameters (bounds.getD []) predicates type false)
    else if isPlain && startsMacroPath ts then macroMember
    else failure
  if isPlain then return t.withAttributes attributes else unusual

def interfaceBody (head : String) : Reader Tree := do
  word "trait"
  let name ← name
  let parameters ← parameters rules
  let stop (ts : List Token) : Bool :=
    Token.startsWord "where" ts || Token.startsGroup .brace ts
  let bounds ← if ← mark? ":" then roleBounds rules stop else pure []
  let predicates ← predicates rules
  group .brace do
    let attributes ← innerAttributes rules
    let items ← all (interfaceItem rules)
    return .interface (head ++ "trait ") name parameters bounds predicates attributes items

/-- An interface, or a name for several ones. -/
def interface (head : String) : Reader Tree := do
  let start ← tokens
  word "trait"
  let name ← name
  let parameters ← parameters rules
  if ← mark? "=" then
    let stop (ts : List Token) : Bool := Token.startsWord "where" ts || Token.starts ";" ts
    let bounds ← roleBounds rules stop
    let predicates ← predicates rules
    mark ";"
    return .interfaceSynonym (head ++ "trait ") name parameters bounds predicates
  else
    goOn start
    interfaceBody rules head

/-! ## Implementations -/

def implementationItem : Reader Tree := do
  let attributes ← outerAttributes rules
  let visibility ← visibility
  let hasDefault ← sees fun ts =>
    Token.startsWord "default" ts && !Token.starts "!" (Token.behind ts)
  let head := visibility ++ (← if hasDefault then head? "default" else pure "")
  let ts ← tokens
  let t ←
    if startsSignature false ts then functionItem rules head
    else if Token.startsWord "const" ts then constantItem rules head
    else if Token.startsWord "type" ts then synonymItem rules head false
    else if head = "" && startsMacroPath ts then macroMember
    else failure
  return t.withAttributes attributes

/-- Whether parameters are next, rather than a type that starts with a bracket. -/
def startsParameters (ts : List Token) : Bool :=
  let next := Token.behind ts
  let third := Token.behind next
  Token.starts "<" ts && (Token.starts ">" next || Token.starts "#" next ||
    ((Token.startsLifetime next || Token.startsName next) &&
      (Token.starts ">" third || Token.starts "," third || Token.starts "=" third ||
        (Token.starts ":" third && !Token.starts "::" third))) ||
    Token.startsWord "const" next)

/-- An implementation; one that everybody sees and one for constants have no usual form. -/
def implementation (visible : Bool) : Reader Tree := do
  let head := (← head? "default") ++ (← head? "unsafe")
  word "impl"
  let parameters ← if ← sees startsParameters then parameters rules else pure []
  let forConstants ← sees fun ts => Token.startsWord "const" ts ||
    (Token.starts "?" ts && Token.startsWord "const" (Token.behind ts))
  if forConstants then
    let _ ← mark? "?"
    word "const"
  let negative ←
    if ← sees fun ts => !Token.startsGroup .brace (Token.behind ts) then mark? "!" else pure false
  let first ← rules (.type true)
  let hasRole ← word? "for"
  let type ← if hasRole then rules (.type true) else pure first
  let isPath := match first with
    | .path none .. => true
    | _ => false
  let predicates ← predicates rules
  let t ← group .brace do
    let attributes ← innerAttributes rules
    let items ← all (implementationItem rules)
    return .implementation head parameters negative (if hasRole then some first else none) type
      predicates attributes items
  if visible || forConstants || (hasRole && !isPath) || (negative && !hasRole) then unusual
  else return t

/-! ## What stands elsewhere -/

def foreignItem : Reader Tree := do
  let attributes ← outerAttributes rules
  let visibility ← visibility
  let ts ← tokens
  let next := Token.behind ts
  let isMarked := Token.startsOneOf ["unsafe", "safe"] ts && Token.startsWord "static" next
  let t ←
    if startsSignature true ts then
      let isSafe := !startsSignature false ts
      if isSafe then
        let _ ← head? "const"
        let _ ← head? "async"
        word "safe"
      match ← function rules visibility (body? rules) with
      | .function head name parameters inputs variadic output predicates none =>
        let t := Tree.function head name parameters inputs variadic output predicates none
        if isSafe then unusual else pure t
      | _ => unusual
    else if isMarked || Token.startsWord "static" ts then
      if isMarked then let _ ← anyWord
      word "static"
      let mutable ← head? "mut"
      let name ← name
      mark ":"
      let type ← rules (.type true)
      let hasValue ← mark? "="
      if hasValue then let _ ← rules (.expression true)
      mark ";"
      if isMarked || hasValue then unusual
      else pure (.constant (visibility ++ "static " ++ mutable) name type none)
    else if Token.startsWord "type" ts then
      match ← typeItem rules true true with
      | ⟨name, parameters, none, _, none⟩ =>
        pure (.synonym (visibility ++ "type ") name parameters [] [] none true)
      | _ => unusual
    else if visibility = "" && startsMacroPath ts then macroMember
    else failure
  return t.withAttributes attributes

/-- Items that are only declared, and how they are called. -/
def foreignItems : Reader Tree := do
  let head ← head? "unsafe"
  if !(← sees (Token.startsWord "extern")) then failure
  let head := head ++ (← convention)
  group .brace do
    let attributes ← innerAttributes rules
    return .foreignItems head attributes (← all (foreignItem rules))

/-- A crate under a name. -/
def foreignCrate (head : String) : Reader Tree := do
  word "extern"
  word "crate"
  let name ← if ← word? "self" then pure "self" else name
  let rename ← if ← word? "as" then (" as " ++ ·) <$> nameOrBlank else pure ""
  mark ";"
  return .line (head ++ "extern crate " ++ name ++ rename ++ ";")

/-- A module, with its items or in a place of its own. -/
def submodule (head : String) : Reader Tree := do
  let head := head ++ (← head? "unsafe")
  word "mod"
  let name ← if ← word? "try" then pure "try" else name
  if ← mark? ";" then return .submodule (head ++ "mod ") name [] none
  else group .brace do
    let attributes ← innerAttributes rules
    return .submodule (head ++ "mod ") name attributes (some (← all (rules .item)))

/-- What is imported, at most so deep; where a path may start from a root, one inside braces may
too, but has no usual form then. -/
def imported : Nat → Bool → Reader Tree
  | 0, _ => failure
  | n + 1, roots => do
    let ts ← tokens
    if Token.startsName ts || Token.startsOneOf ["self", "super", "crate", "try"] ts then
      let name ← anyWord
      if ← mark? "::" then return .importFrom name (← imported n false)
      else if ← word? "as" then return .importName (name ++ " as " ++ (← nameOrBlank))
      else return .importName name
    else if ← mark? "*" then return .importName "*"
    else
      let part : Reader Tree := do
        let root ← if roots then mark? "::" else pure false
        let t ← imported n (roots && !root)
        if root then unusual else return t
      return .importGroup (← group .brace (commas part))

/-- What a module uses from elsewhere. -/
def importing (head : String) : Reader Tree := do
  word "use"
  let root ← mark? "::"
  let what ← imported (Token.listSize (← tokens) + 1) (!root)
  mark ";"
  return .importing (head ++ "use " ++ if root then "::" else "") what

/-! ## Items -/

def itemForm : Reader Tree := do
  let head ← visibility
  let ts ← tokens
  let next := Token.behind ts
  let isPlain := head = ""
  if startsSignature false ts then functionItem rules head
  else if Token.startsWord "extern" ts then
    if Token.startsWord "crate" next then foreignCrate head
    else if isPlain then foreignItems rules
    else failure
  else if Token.startsWord "use" ts then importing head
  else if Token.startsWord "static" ts then staticItem rules head
  else if Token.startsWord "const" ts then constantItem rules head
  else if Token.startsWord "unsafe" ts then
    if Token.startsWord "trait" next ||
        (Token.startsWord "auto" next && Token.startsWord "trait" (Token.behind next)) then
      word "unsafe"
      let auto ← head? "auto"
      interfaceBody rules (head ++ "unsafe " ++ auto)
    else if Token.startsWord "impl" next then implementation rules (!isPlain)
    else if Token.startsWord "extern" next && isPlain then foreignItems rules
    else if Token.startsWord "mod" next then submodule rules head
    else failure
  else if Token.startsWord "mod" ts then submodule rules head
  else if Token.startsWord "type" ts then synonymItem rules head true
  else if Token.startsWord "struct" ts then productItem rules head
  else if Token.startsWord "enum" ts then sumItem rules head
  else if Token.startsWord "union" ts && Token.startsName next then unionItem rules head
  else if Token.startsWord "trait" ts then interface rules head
  else if Token.startsWord "auto" ts && Token.startsWord "trait" next then
    word "auto"
    interfaceBody rules (head ++ "auto ")
  else if Token.startsWord "impl" ts ||
      (Token.startsWord "default" ts && !Token.starts "!" next) then
    implementation rules (!isPlain)
  else if Token.startsWord "macro" ts then newMacro
  else if isPlain && startsMacroPath ts then macroItem
  else failure

def item : Reader Tree := do
  let attributes ← outerAttributes rules
  return (← itemForm rules).withAttributes attributes

end ClientGen.Syntax.Reader
