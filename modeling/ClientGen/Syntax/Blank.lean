import ClientGen.Text.Blank

/-!
# What stands between the tokens of source text

Blank characters stand there, and comments that are not documentation. Comments in blocks may be
nested.
-/

namespace ClientGen.Syntax

/-- Whether the text starts with the other one. -/
def startsWith (s : List Char) (start : String) : Bool := start.toList.isPrefixOf s

/-- Whether the character is blank; the two marks of direction are. -/
def isBlank (c : Char) : Bool := Text.isBlank c || c == '\u200e' || c == '\u200f'

def startsDocLine (s : List Char) : Bool :=
  (startsWith s "///" && !startsWith s "////") || startsWith s "//!"

def startsDocBlock (s : List Char) : Bool :=
  (startsWith s "/**" && !startsWith s "/***") || startsWith s "/*!"

/-- The number of characters up to the end of the outermost of some nested comments, of which `n`
have been read. -/
def blockLength? (depth n : Nat) : List Char → Option Nat
  | '/' :: '*' :: rest => blockLength? (depth + 1) (n + 2) rest
  | '*' :: '/' :: rest => if depth ≤ 1 then some (n + 2) else blockLength? (depth - 1) (n + 2) rest
  | _ :: rest => blockLength? depth (n + 1) rest
  | [] => none

/-- The number of characters of the blank character or the comment at the start of a text. -/
def blankLength? (s : List Char) : Option Nat :=
  if startsWith s "//" then
    if startsDocLine s then none else some (s.takeWhile (· ≠ '\n')).length
  else if startsWith s "/**/" then some 4
  else if startsWith s "/*" then
    if startsDocBlock s then none else blockLength? 0 0 s
  else if s.head?.any isBlank then some 1
  else none

end ClientGen.Syntax
