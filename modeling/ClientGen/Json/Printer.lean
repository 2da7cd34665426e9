import ClientGen.Json.Value

/-!
# Written JSON

Values are written on one line or indented by two blanks. Only quotes, backslashes and controls
below the space are escaped.
-/

namespace ClientGen.Json

/-- The hexadecimal digit of a number below sixteen. -/
def hexDigit (n : Nat) : Char := Nat.digitChar n

/-- A character inside a quoted string. -/
def escapeChar (c : Char) : List Char :=
  if c = '"' then ['\\', '"']
  else if c = '\\' then ['\\', '\\']
  else if c = '\n' then ['\\', 'n']
  else if c = '\r' then ['\\', 'r']
  else if c = '\t' then ['\\', 't']
  else if c = '\x08' then ['\\', 'b']
  else if c = '\x0c' then ['\\', 'f']
  else if c.toNat < 32 then
    ['\\', 'u', '0', '0', hexDigit (c.toNat / 16), hexDigit (c.toNat % 16)]
  else [c]

def quote (s : String) : List Char :=
  '"' :: (s.toList.flatMap escapeChar ++ ['"'])

/-- The pieces one after the other, with a comma between each two. -/
def joinComma (separator : List Char) : List (List Char) → List Char
  | [] => []
  | [piece] => piece
  | piece :: rest => piece ++ ',' :: (separator ++ joinComma separator rest)

namespace Value

mutual

/-- The value on one line, without blanks. -/
def compactChars : Value → List Char
  | .null => "null".toList
  | .bool true => "true".toList
  | .bool false => "false".toList
  | .number n => n.text.toList
  | .string s => quote s
  | .array elements => '[' :: (joinComma [] (compactElements elements) ++ [']'])
  | .object fields => '{' :: (joinComma [] (compactFields fields) ++ ['}'])

/-- The elements of an array, each on one line. -/
def compactElements : List Value → List (List Char)
  | [] => []
  | v :: rest => compactChars v :: compactElements rest

/-- The fields of an object, each on one line. -/
def compactFields : List (String × Value) → List (List Char)
  | [] => []
  | (name, v) :: rest => (quote name ++ ':' :: compactChars v) :: compactFields rest

end

/-- A new line that is indented to the level. -/
def newLine (level : Nat) : List Char := '\n' :: List.replicate (2 * level) ' '

mutual

/-- The value with each element and field on a line of its own, at an indentation level. -/
def prettyChars (level : Nat) : Value → List Char
  | .null => "null".toList
  | .bool true => "true".toList
  | .bool false => "false".toList
  | .number n => n.text.toList
  | .string s => quote s
  | .array [] => ['[', ']']
  | .array (v :: rest) =>
    '[' :: (newLine (level + 1)
      ++ joinComma (newLine (level + 1)) (prettyElements (level + 1) (v :: rest))
      ++ newLine level ++ [']'])
  | .object [] => ['{', '}']
  | .object (f :: rest) =>
    '{' :: (newLine (level + 1)
      ++ joinComma (newLine (level + 1)) (prettyFields (level + 1) (f :: rest))
      ++ newLine level ++ ['}'])

/-- The elements of an array at an indentation level. -/
def prettyElements (level : Nat) : List Value → List (List Char)
  | [] => []
  | v :: rest => prettyChars level v :: prettyElements level rest

/-- The fields of an object at an indentation level. -/
def prettyFields (level : Nat) : List (String × Value) → List (List Char)
  | [] => []
  | (name, v) :: rest =>
    (quote name ++ ':' :: ' ' :: prettyChars level v) :: prettyFields level rest

end

def compact (v : Value) : String := String.ofList v.compactChars

/-- The value over several lines. -/
def pretty (v : Value) : String := String.ofList (v.prettyChars 0)

end Value

end ClientGen.Json
