/-!
# Documentation as a comment in formatted source

A line is a line comment; several lines are a block comment, unless the text would end that block or
open another one in it.
-/

namespace ClientGen.Text

/-- Whether documentation stands before what it documents, or inside it. -/
inductive DocPlace
  | outside
  | inside
deriving DecidableEq

/-- The number of comments that are open behind a text, unless it ends one that it has not opened.
-/
def openComments? (depth : Nat) : List Char → Option Nat
  | '/' :: '*' :: rest => openComments? (depth + 1) rest
  | '*' :: '/' :: rest => if depth = 0 then none else openComments? (depth - 1) rest
  | _ :: rest => openComments? depth rest
  | [] => some depth

/-- Whether the text can stand in a block comment. -/
def isBlockText (s : List Char) : Bool := openComments? 0 s == some 0 && s.getLast? != some '/'

/-- The text without the spaces at its end. -/
def trimSpaces (s : List Char) : List Char := (s.reverse.dropWhile (· == ' ')).reverse

/-- The lines without the spaces at their ends; the last line stays as it is. -/
def trimInnerLines (s : List Char) : List Char :=
  let lines := s.splitOn '\n'
  ['\n'].intercalate (lines.dropLast.map trimSpaces ++ lines.getLast?.toList)

/-- The comment that documentation is written as, if it can be one. -/
def docComment? (place : DocPlace) (docs : String) : Option String :=
  let s := docs.toList
  let outside := place = .outside
  if !s.contains '\n' && !(outside && s.head? == some '/') then
    some ((if outside then "///" else "//!") ++ String.ofList (trimSpaces s))
  else if isBlockText s && !(outside && (s.head? == some '/' || s.head? == some '*')) then
    some ((if outside then "/**" else "/*!") ++ String.ofList (trimInnerLines s) ++ "*/")
  else none

/-- A remark as a comment that documents nothing, if it can be one. -/
def remark? (text : String) : Option String :=
  let s := text.toList
  if !s.contains '\n' then some ("//" ++ String.ofList (trimSpaces s))
  else if isBlockText s && !(s.head? == some '*' || s.head? == some '!') then
    some ("/*" ++ String.ofList (trimInnerLines s) ++ "*/")
  else none

example : docComment? .outside " A value. " = some "/// A value." := by decide

example : docComment? .outside " a \n*/" = none := by decide

end ClientGen.Text
