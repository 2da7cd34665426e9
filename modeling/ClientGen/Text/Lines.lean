/-!
# Splitting a text into lines

A line ends at a line feed, which a carriage return may precede; an empty rest after the last line
feed is no line.
-/

namespace ClientGen.Text

/-- A line read so far, last character first, without the carriage return that ends it. -/
def finishLine : List Char → List Char
  | '\r' :: line => line.reverse
  | line => line.reverse

/-- The lines of a text of which `line` has been read, last character first. -/
def linesFrom (line : List Char) : List Char → List (List Char)
  | [] => if line.isEmpty then [] else [line.reverse]
  | '\n' :: rest => finishLine line :: linesFrom [] rest
  | c :: rest => linesFrom (c :: line) rest

def lines (text : String) : List String := (linesFrom [] text.toList).map String.ofList

example : lines "a\r\n\nb\r" = ["a", "", "b\r"] := by decide
example : lines "a\n" = ["a"] ∧ lines "" = [] := by decide

end ClientGen.Text
