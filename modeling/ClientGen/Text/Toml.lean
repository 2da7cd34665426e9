/-!
# Strings and keys of TOML

A string is written in the first of these forms that needs no escape: in double quotes, in single
quotes, over several lines in double quotes, and over several lines in single quotes. If there is
none, it is written in double quotes with escapes.
-/

namespace ClientGen.Text.Toml

/-- The length of the longest run of a character, when `run` of them and at most `longest` in a run
have been met. -/
def longestRun (c : Char) (run longest : Nat) : List Char → Nat
  | [] => max run longest
  | d :: rest =>
    if d = c then longestRun c (run + 1) longest rest else longestRun c 0 (max run longest) rest

/-- Whether the character is a control other than a tab or a line feed. -/
def isControl (c : Char) : Bool := (c.toNat < 32 && c != '\t' && c != '\n') || c.toNat == 127

/-- Whether a string can be written in double quotes without an escape, when at most `quotes` of
them may follow one another. -/
def fitsBasic (quotes : Nat) (s : List Char) : Bool :=
  !s.any isControl && !s.contains '\\' && longestRun '"' 0 0 s ≤ quotes

/-- Whether a string can be written in single quotes, when at most `quotes` of them may follow one
another. -/
def fitsLiteral (quotes : Nat) (s : List Char) : Bool :=
  !s.any isControl && longestRun '\'' 0 0 s ≤ quotes

/-- A hexadecimal number of four digits. -/
def hex4 (n : Nat) : List Char :=
  [n / 4096 % 16, n / 256 % 16, n / 16 % 16, n % 16].map fun d => (Nat.digitChar d).toUpper

/-- The characters of a string in double quotes, behind `run` quotes in a row; over several lines,
line feeds and up to two quotes in a row stand for themselves. -/
def escape (multiline : Bool) (run : Nat) : List Char → List Char
  | [] => []
  | '"' :: rest =>
    if multiline && run < 2 then '"' :: escape multiline (run + 1) rest
    else '\\' :: '"' :: escape multiline 0 rest
  | c :: rest =>
    let written :=
      if c = '\x08' then ['\\', 'b'] else if c = '\t' then ['\\', 't']
      else if c = '\n' then if multiline then ['\n'] else ['\\', 'n']
      else if c = '\x0c' then ['\\', 'f'] else if c = '\r' then ['\\', 'r']
      else if c = '\\' then ['\\', '\\']
      else if isControl c then '\\' :: 'u' :: hex4 c.toNat
      else [c]
    written ++ escape multiline 0 rest

def delimited (delimiter : String) (s : List Char) : String :=
  delimiter ++ String.ofList s ++ delimiter

/-- A string over several lines, which starts on a line of its own if it has more than one. -/
def multiline (delimiter : String) (s content : List Char) : String :=
  delimited delimiter (if s.contains '\n' then '\n' :: content else content)

def string (text : String) : String :=
  let s := text.toList
  let newline := s.contains '\n'
  if fitsBasic 0 s && !newline then delimited "\"" (escape false 0 s)
  else if fitsLiteral 0 s && !newline then delimited "'" s
  else if fitsBasic 2 s then multiline "\"\"\"" s (escape true 0 s)
  else if fitsLiteral 2 s then multiline "'''" s s
  else if newline then multiline "\"\"\"" s (escape true 0 s)
  else delimited "\"" (escape false 0 s)

/-- Whether the character may stand in a key without quotes. -/
def isBare (c : Char) : Bool := (c.toNat < 128 && c.isAlphanum) || c == '_' || c == '-'

def key (text : String) : String :=
  let s := text.toList
  if !s.isEmpty && s.all isBare then text
  else if fitsBasic 0 s && !s.contains '\n' then delimited "\"" (escape false 0 s)
  else if fitsLiteral 0 s && !s.contains '\n' then delimited "'" s
  else delimited "\"" (escape false 0 s)

def stringList (texts : List String) : String := "[" ++ ", ".intercalate (texts.map string) ++ "]"

example : string "a" = "\"a\"" ∧ string "q\"" = "'q\"'" ∧ string "a\\\nb" = "'''\na\\\nb'''" := by
  decide +kernel

end ClientGen.Text.Toml
