import ClientGen.Unicode.Case

/-!
# Identifiers of the generated code

Model names come in whatever case their author chose (`cityId`, `CityID`, `max-items`); fields and
locals are written in snake case, types and variants in Pascal case, and a name that meets a keyword
is escaped.
-/

namespace ClientGen.Naming

open ClientGen.Unicode

/-! ## Words -/

/-- The characters that separate words and belong to none. -/
def isSeparator (c : Char) : Bool := c == '_' || c == '-' || c == ' ' || c == '.'

/-- Whether the character is one of the ten ASCII digits. -/
def isAsciiDigit (c : Char) : Bool := '0' ≤ c && c ≤ '9'

/-- Whether a word starts at `current`, which follows `prev` and precedes `rest`: at a capital after
a small letter or a digit, and at the last capital of an acronym. -/
def startsWord (prev current : Char) (rest : List Char) : Bool :=
  isUppercase current &&
    (isLowercase prev || isAsciiDigit prev ||
      (isUppercase prev && match rest with
        | next :: _ => isLowercase next
        | [] => false))

/-- The word read so far, last character first, unless it is empty. -/
def finishWord (word : List Char) : List (List Char) :=
  if word.isEmpty then [] else [word.reverse]

/-- The words of a text of whose current word `word` has been read, last character first. -/
def wordsFrom (word : List Char) : List Char → List (List Char)
  | [] => finishWord word
  | c :: rest =>
    if isSeparator c then finishWord word ++ wordsFrom [] rest
    else match word with
      | [] => wordsFrom [c] rest
      | prev :: _ =>
        if startsWord prev c rest then word.reverse :: wordsFrom [c] rest
        else wordsFrom (c :: word) rest

/-- The words of an identifier: `cityId` is `city`, `Id`; `HTTPClient` is `HTTP`, `Client`. -/
def splitWords (name : String) : List (List Char) := wordsFrom [] name.toList

/-! ## Cases -/

/-- The words in small letters, joined by underscores. -/
def snakeCase (name : String) : String :=
  String.ofList (['_'].intercalate ((splitWords name).map lowercase))

/-- A word with its first character in capitals and the others in small letters. -/
def capitalize : List Char → List Char
  | [] => []
  | first :: rest => upperChars first ++ lowercase rest

/-- The words with a capital each, joined without a separator. -/
def pascalCase (name : String) : String :=
  String.ofList ((splitWords name).map capitalize).flatten

/-! ## Keywords -/

/-- The words that cannot stand as an identifier. -/
def keywords : List String :=
  ["as", "async", "await", "box", "break", "const", "continue", "crate", "dyn", "else", "enum",
    "extern", "false", "fn", "for", "gen", "if", "impl", "in", "let", "loop", "match", "mod",
    "move", "mut", "pub", "ref", "return", "self", "Self", "static", "struct", "super", "trait",
    "true", "try", "type", "unsafe", "use", "where", "while", "yield"]

/-- The keywords that cannot be a raw identifier either. -/
def pathKeywords : List String := ["crate", "self", "Self", "super"]

def isKeyword (word : String) : Bool := keywords.contains word

/-- Whether the text starts with an ASCII digit. -/
def startsWithDigit (text : String) : Bool := text.toList.head?.any isAsciiDigit

/-- The identifier itself, raw if it is a keyword, and never starting with a digit. -/
def escapeKeyword (ident : String) : String :=
  if pathKeywords.contains ident then ident ++ "_"
  else if isKeyword ident then "r#" ++ ident
  else if startsWithDigit ident then "_" ++ ident
  else ident

/-! ## Names of generated items -/

/-- The name of the field or method for a model name. -/
def fieldName (name : String) : String := escapeKeyword (snakeCase name)

/-- The name of the type or variant for a model name; a keyword is given the suffix `Value`. -/
def typeName (name : String) : String :=
  let pascal := pascalCase name
  if isKeyword pascal then pascal ++ "Value" else pascal

/-- The stem of the temporaries of a member. A role and a depth are appended to it, so that it needs
no escape from keywords. -/
def tempStem (name : String) : String :=
  let snake := snakeCase name
  if snake.isEmpty then "value"
  else if startsWithDigit snake then "m" ++ snake
  else snake

end ClientGen.Naming
