import ClientGen.Format.Layout

/-!
# Layouts of tokens

The tokens inside a macro or an attribute have no further structure. What stands between two of them
follows from what kind they are, so that the usual forms of source text come out as they are
usually written.
-/

namespace ClientGen.Format

open Syntax

/-! ## Tokens of macros -/

/-- What the last token of a macro was, as far as the next one has to know. -/
inductive Behind
  | start
  | dollar
  /-- A name behind a dollar sign, and a colon behind that. -/
  | variable
  | variableColon
  /-- Parentheses behind a dollar sign, and what separates their repetitions. -/
  | repetition
  | separator
  | pound
  | poundMark
  | point
  | colon
  | colons
  | name
  | nameMark
  | group
  | other
deriving DecidableEq

/-- The words that are no names inside a macro. -/
def macroKeywords : List String :=
  ["as", "async", "await", "box", "break", "const", "continue", "crate", "dyn", "else", "enum",
    "extern", "fn", "for", "if", "impl", "in", "let", "loop", "macro", "match", "mod", "move",
    "mut", "pub", "ref", "return", "static", "struct", "trait", "type", "unsafe", "use", "where",
    "while", "yield"]

/-- Whether a blank stands before a token that starts no special form, and what it is. -/
def beforePlain (shape : Bool) (last : Behind) : Token → Bool × Behind
  | .group .brace _ => (true, .other)
  | .group _ _ => (true, .group)
  | .word w => if macroKeywords.contains w then (true, .other)
    else (last != .point && last != .colons, .name)
  | .literal _ => (last != .point, .name)
  | .mark ',' _ | .mark ';' _ => (false, .other)
  | .mark c joint =>
    if c = '.' && !shape then (last != .name && last != .group, .point)
    else if c = ':' && joint then (last != .name, .colon)
    else if c = '$' then (true, .dollar)
    else if c = '#' then (true, .pound)
    else (true, .other)

/-- Whether a blank stands before a token of a macro, and what the token is. Inside the shape that a
rule matches, a dollar sign starts a variable. -/
def beforeToken (shape : Bool) (last : Behind) (t : Token) : Bool × Behind :=
  match last, t with
  | .dollar, .word _ => (false, if shape then .variable else .other)
  | .variable, .mark ':' false => (false, .variableColon)
  | .variableColon, .word _ => (false, .other)
  | .repetition, .mark '+' false | .repetition, .mark '*' false | .repetition, .mark '?' false =>
    (false, .other)
  | .repetition, .word _ | .repetition, .literal _ => (false, .separator)
  | .repetition, .mark _ joint => (false, if joint then .repetition else .separator)
  | .separator, .mark '+' _ | .separator, .mark '*' _ => (false, .other)
  | .pound, .mark '!' _ => (false, .poundMark)
  | .dollar, .group .parenthesis _ => (false, .repetition)
  | .pound, .group .bracket _ | .poundMark, .group .bracket _ => (false, .other)
  | .name, .group .parenthesis _ | .name, .group .bracket _ => (false, .group)
  | .name, .mark '!' false => (false, .nameMark)
  | .nameMark, .group .parenthesis _ | .nameMark, .group .bracket _ => (false, .other)
  | .colon, .mark ':' _ => (false, .colons)
  | _, _ => beforePlain shape last t

/-- Whether nothing stands behind the token. -/
def holdsNext : Token → Bool
  | .mark c joint => joint || c == '$'
  | _ => false

/-- What stands before a token; a line may end before a point. -/
def gapBefore (held needsBlank : Bool) (t : Token) : Layout :=
  if held then []
  else if needsBlank then blank
  else match t with
    | .mark '.' _ => seam
    | _ => []

/-- The delimiters of a group, without blanks. -/
def delimiters : Delimiter → String × String
  | .parenthesis => ("(", ")")
  | .bracket => ("[", "]")
  | .brace => ("\x7b", "\x7d")

mutual

def macroToken (shape : Bool) : Token → Layout
  | .word t | .literal t => word t
  | .mark c _ => word c.toString
  | .group d inner =>
    let gap := if d = .brace && !inner.isEmpty then blank else []
    word (delimiters d).1 ++ gap ++ macroTokens shape .start true inner ++ gap
      ++ word (delimiters d).2

/-- The tokens of a macro behind another one, which holds the first of them or not. -/
def macroTokens (shape : Bool) (last : Behind) (held : Bool) : List Token → Layout
  | [] => []
  | t :: rest =>
    let (needsBlank, next) := beforeToken shape last t
    gapBefore held needsBlank t ++ macroToken shape t ++ macroTokens shape next (holdsNext t) rest

end

/-- The tokens of a macro, on lines of their own. -/
def tokenLines (shape : Bool) (edge : Layout) (tokens : List Token) : Layout :=
  if tokens.isEmpty then []
  else stack step (edge ++ paragraph 0 (macroTokens shape .start true tokens) ++ edge ++ outdent)

/-! ## Macros -/

/-- A token of the rules that define a macro. -/
def ruleToken (place : RulePlace) : Token → Layout
  | .group d inner => match place with
    | .start => word (delimiters d).1 ++ tokenLines true seam inner ++ word (delimiters d).2
    | _ => word " \x7b" ++ bond ++ tokenLines false lineEnd inner ++ word "\x7d"
  | .mark '=' _ => word " ="
  | .mark ';' _ => word ";" ++ lineEnd
  | .mark c _ => word c.toString
  | _ => []

/-- The rules that define a macro, from a place in them on. -/
def ruleTokens (place : RulePlace) : List Token → Layout
  | [] => match place with
    | .start => []
    | .expansion => word ";" ++ lineEnd
    | _ => lineEnd
  | t :: rest => ruleToken place t ++ ruleTokens ((place.next? t).getD place) rest

def macroRules (name : String) (tokens : List Token) : Layout :=
  word s!"macro_rules! {name} \x7b" ++ stack step (lineEndIfFilled ++ ruleTokens .start tokens
    ++ outdent) ++ word "\x7d"

/-- A call of a macro, which may define something under a name. -/
def macroCall (m : MacroCall) (name : Option String) (semicolon : Bool) : Layout :=
  match m.path, name with
  | "macro_rules", some name => macroRules name m.tokens
  | path, name =>
    let isBrace := m.delimiter = .brace
    word (path ++ "!" ++ (name.map (" " ++ ·)).getD "" ++ (if isBrace then " " else "")
        ++ (delimiters m.delimiter).1)
      ++ tokenLines false (if isBrace then lineEnd else seam) m.tokens
      ++ word (delimiters m.delimiter).2
      ++ word (if semicolon && !isBrace then ";" else "")

/-! ## Tokens of attributes -/

/-- What the last token of an attribute was. -/
inductive Beside
  /-- A word or a literal. -/
  | text
  | mark
  | lastComma
deriving DecidableEq

mutual

/-- A token of an attribute behind another one, and what it is. -/
def attributeToken (last : Beside) (isLast : Bool) : Token → Layout × Beside
  | .word t | .literal t => ((if last = .text then blank else []) ++ word t, .text)
  | .mark ',' _ => if isLast then (lastComma, .lastComma) else (comma, .mark)
  | .mark '=' _ => (word (if last = .text then " = " else "= "), .mark)
  | .mark c _ => (word c.toString, .mark)
  | .group .parenthesis inner =>
    let (l, last) := attributeTokens .mark inner
    (enclosed "(" ")" (l ++ if last = .lastComma then [] else seam), .mark)
  | .group d inner =>
    (word (delimiters d).1 ++ (attributeTokens .mark inner).1 ++ word (delimiters d).2, .mark)

/-- The tokens of an attribute behind another one, and what the last of them is. -/
def attributeTokens (last : Beside) : List Token → Layout × Beside
  | [] => ([], last)
  | t :: rest =>
    let (l, next) := attributeToken last rest.isEmpty t
    let (more, last) := attributeTokens next rest
    (l ++ more, last)

end

end ClientGen.Format
