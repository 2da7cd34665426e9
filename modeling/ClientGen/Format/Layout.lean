import ClientGen.Syntax.Tree

/-!
# Layouts

A layout is text with gaps, at which a line may end, and boxes around parts of it. A box that does
not fit on its line ends lines at its gaps: a stack at all of them, a paragraph only where the text
up to the next gap would not fit.
-/

namespace ClientGen.Format

/-- A place where a line may end. -/
structure Gap where
  /-- How many blanks stand here if the line goes on. -/
  blanks : Nat := 0
  /-- How much deeper than its box the next line starts. -/
  indent : Int := 0
  /-- What the line ends with. -/
  before : String := ""
  /-- What the next line starts with. -/
  behind : String := ""
  /-- What stands here if the line goes on. -/
  between : String := ""
  /-- Whether nothing stands here at the end of a box. -/
  optional : Bool := false
  /-- Whether no line ends here where the box fits or not. -/
  closed : Bool := false
  /-- Whether nothing stands here if the line is too long already. -/
  spare : Bool := false

inductive Piece
  | text (s : String)
  | gap (g : Gap)
  /-- The start of a box, which is a stack or a paragraph. -/
  | opening (indent : Int) (stack : Bool)
  /-- The end of a box, which never fits on a line if it is wider than the limit. -/
  | closing (limit : Option Nat)
  /-- Lets the line behind the gap before it start less deep. -/
  | outdent

/-- Pieces in their order. -/
abbrev Layout := List Piece

/-! ## Text and gaps -/

/-- How much deeper a line starts than the one around it. -/
def step : Int := 4

/-- More blanks than fit on a line. -/
def endless : Nat := 65535

/-- A text; an empty one is no piece. -/
def word (s : String) : Layout := if s.isEmpty then [] else [.text s]

/-- A gap without a blank. -/
def seam : Layout := [.gap {}]

def blank : Layout := [.gap { blanks := 1 }]

/-- A gap of one blank, if something follows in the box. -/
def blankIfFilled : Layout := [.gap { blanks := 1, optional := true }]

def lineEnd : Layout := [.gap { blanks := endless }]

/-- The end of a line, if something follows in the box. -/
def lineEndIfFilled : Layout := [.gap { blanks := endless, optional := true }]

/-- A place where no line ends, and up to which the text before it has to fit. -/
def bond : Layout := [.gap { closed := true }]

/-- A gap that ends the line with a comma. -/
def lastComma : Layout := [.gap { before := "," }]

/-- A gap of one blank that ends the line with a comma. -/
def lastCommaOrBlank : Layout := [.gap { blanks := 1, before := "," }]

def comma : Layout := word "," ++ blank

/-- Lets the line behind the gap before it start less deep. -/
def outdent : Layout := [.outdent]

/-! ## Boxes -/

/-- A box that ends lines at all of its gaps or at none. -/
def stack (indent : Int) (inner : Layout) : Layout :=
  .opening indent true :: inner ++ [.closing none]

/-- A stack that never fits on a line if it is wider than the limit. -/
def narrowStack (limit : Nat) (indent : Int) (inner : Layout) : Layout :=
  .opening indent true :: inner ++ [.closing (some limit)]

/-- A box that ends lines only where it has to. -/
def paragraph (indent : Int) (inner : Layout) : Layout :=
  .opening indent false :: inner ++ [.closing none]

/-- Parts in delimiters, on lines of their own if they do not fit. -/
def enclosed (opening closing : String) (inner : Layout) : Layout :=
  word opening ++ stack step (seam ++ inner ++ outdent) ++ word closing

/-! ## Sequences -/

/-- Parts with commas between them; the last one has a comma if it ends its line. -/
def listed : List Layout → Layout
  | [] => []
  | [part] => part ++ lastComma
  | part :: rest => part ++ comma ++ listed rest

/-- Parts with commas between them, in braces. -/
def listedInBraces : List Layout → Layout
  | [] => []
  | [part] => part ++ lastCommaOrBlank
  | part :: rest => part ++ comma ++ listedInBraces rest

/-- Parts with commas behind all of them. -/
def followed (parts : List Layout) : Layout := parts.flatMap (· ++ comma)

/-- Parts with something between them. -/
def separated (separator : Layout) (parts : List Layout) : Layout := separator.intercalate parts

/-- Parts with plus signs between them. -/
def plusLine (parts : List Layout) : Layout := separated (word " + ") parts

/-- Parts with plus signs between them, each of which may start a line. -/
def plusLines (parts : List Layout) : Layout := separated (blank ++ word "+ ") parts

/-- Whether the text of the layout ends with a point. -/
def endsWithPoint (l : Layout) : Bool :=
  match l.reverse.find? fun
    | .text _ => true
    | _ => false with
  | some (.text s) => s.endsWith "."
  | _ => false

end ClientGen.Format
