import ClientGen.Symbol.Basic
import ClientGen.Text.Blank
import ClientGen.Text.Lines

/-!
# Code as blocks of lines

A block stands one level deeper than its header and footer. A writer opens its scope by one call
and closes it by another; that the calls for a whole module come to blocks is shown in the proofs on
its emission. Code also says what it needs from elsewhere; a need takes no line.
-/

namespace ClientGen

inductive Need
  /-- A name from another module. -/
  | item (ns name : String)
  /-- A type, and all that stand inside it. -/
  | type (s : Symbol)
  | package (d : Dependency)

inductive Code
  /-- The lines of a text. -/
  | text (s : String)
  | blank
  /-- The lines of a text, as documentation. -/
  | doc (s : String)
  | block (header : String) (body : List Code) (footer : String)
  | need (n : Need)

namespace Code

/-- The blanks before a line. -/
def indent (depth : Nat) : String := String.ofList (List.replicate (4 * depth) ' ')

/-- A line at a depth. A line without content stays empty. -/
def indented (depth : Nat) (line : String) : String :=
  if Text.allBlank line.toList then "" else indent depth ++ line

def textLines (depth : Nat) (s : String) : List String :=
  (Text.lines s).map (indented depth)

/-- A line of documentation behind a mark, without the blanks at its end. -/
def docLine (mark line : String) : String :=
  match Text.trimEnd line.toList with
  | [] => mark
  | cs => mark ++ " " ++ String.ofList cs

def docLines (depth : Nat) (s : String) : List String :=
  (Text.lines s).map fun line => indent depth ++ docLine "///" line

mutual

/-- The lines of the code at a depth. -/
def linesAt (depth : Nat) : Code → List String
  | text s => textLines depth s
  | blank => [""]
  | doc s => docLines depth s
  | block header body footer =>
    textLines depth header ++ linesOfAll (depth + 1) body ++ textLines depth footer
  | need _ => []

def linesOfAll (depth : Nat) : List Code → List String
  | [] => []
  | c :: rest => linesAt depth c ++ linesOfAll depth rest

end

mutual

def needs : Code → List Need
  | need n => [n]
  | block _ body _ => needsOfAll body
  | _ => []

def needsOfAll : List Code → List Need
  | [] => []
  | c :: rest => needs c ++ needsOfAll rest

end

end Code

end ClientGen
