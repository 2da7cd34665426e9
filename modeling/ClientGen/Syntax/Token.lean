import ClientGen.Syntax.Blank
import ClientGen.Syntax.Literal
import ClientGen.Text.Quoted

/-!
# Source text as tokens

The tokens are words, literals, marks, and groups in delimiters. A line of documentation stands for
an attribute. The written form has a blank between any two tokens, except behind a mark that another
one followed directly.
-/

namespace ClientGen.Syntax

open ClientGen.Unicode

inductive Delimiter
  | parenthesis
  | bracket
  | brace
deriving DecidableEq, Inhabited

inductive Token
  /-- An identifier or keyword. -/
  | word (text : String)
  | literal (text : String)
  /-- A mark, and whether another one follows it directly. -/
  | mark (c : Char) (joint : Bool)
  | group (d : Delimiter) (inner : List Token)
deriving Inhabited

/-! ## Reading -/

/-- The literal that stands for what could not be read. -/
def unreadable : String := "(/*ERROR*/)"

/-- A token, or one end of a group. -/
inductive Lexeme
  | token (t : Token)
  | opening (d : Delimiter)
  | closing (d : Delimiter)

def Delimiter.opening? : Char → Option Delimiter
  | '(' => some .parenthesis
  | '[' => some .bracket
  | '\x7b' => some .brace
  | _ => none

def Delimiter.closing? : Char → Option Delimiter
  | ')' => some .parenthesis
  | ']' => some .bracket
  | '\x7d' => some .brace
  | _ => none

/-- A carriage return that no line feed follows. -/
def hasBareReturn : List Char → Bool
  | '\r' :: '\n' :: rest => hasBareReturn rest
  | '\r' :: _ => true
  | _ :: rest => hasBareReturn rest
  | [] => false

/-- The line at the start of a text, without its end. -/
def lineOf : List Char → List Char
  | '\n' :: _ => []
  | '\r' :: '\n' :: _ => []
  | c :: rest => c :: lineOf rest
  | [] => []

/-- Reads documentation: its text, whether it documents what encloses it, and its length. -/
def documentation? (s : List Char) : Option (List Char × Bool × Nat) :=
  let found :=
    if startsDocLine s then
      let line := lineOf s
      some (line.drop 3, startsWith s "//!", line.length)
    else if startsDocBlock s then
      (blockLength? 0 0 s).map fun n =>
        (((s.take n).drop 3).dropLast.dropLast, startsWith s "/*!", n)
    else none
  found.filter fun (text, _, _) => !hasBareReturn text

def docLexemes (text : List Char) (inner : Bool) : List Lexeme :=
  (Lexeme.token (.mark '#' false) :: if inner then [.token (.mark '!' false)] else [])
    ++ [.opening .bracket, .token (.word "doc"), .token (.mark '=' false),
      .token (.literal (Text.sourceLiteral (String.ofList text))), .closing .bracket]

/-- The words that cannot be a raw identifier. -/
def neverRaw : List String := ["_", "super", "self", "Self", "crate"]

/-- The length of an identifier, raw or not, or of a keyword. -/
def identifierLength? (s : List Char) : Option Nat :=
  match s with
  | 'r' :: '#' :: rest => ((wordLength? rest).filter fun n =>
      !neverRaw.contains (String.ofList (rest.take n))).map (· + 2)
  | _ => wordLength? s

def literalStarts : List String :=
  ["r\"", "r#\"", "r##", "b\"", "b'", "br\"", "br#", "c\"", "cr\"", "cr#"]

def isMark (c : Char) : Bool := "~!@#$%^&*-=+|;:,<.>/?'".toList.contains c

/-- Whether the text starts with a mark; what starts a comment does not. -/
def startsMark (s : List Char) : Bool :=
  s.head?.any isMark && !startsWith s "//" && !startsWith s "/*"

/-- Reads a mark. A quote has to start a lifetime. -/
def markToken? (s : List Char) : Option Token :=
  match s with
  | [] => none
  | c :: rest =>
    if !startsMark s then none
    else if c == '\'' then
      match identifierLength? rest with
      | none => none
      | some n =>
        let next := rest.drop n
        if startsWith next "'" || (startsWith next "#" && !startsWith rest "r#") then none
        else some (.mark c true)
    else some (.mark c (startsMark rest))

/-- Reads a token that is no group, and its length. -/
def leaf? (s : List Char) : Option (Token × Nat) :=
  match literalLength? s with
  | some n => some (.literal (String.ofList (s.take n)), n)
  | none => match markToken? s with
    | some t => some (t, 1)
    | none =>
      if literalStarts.any (startsWith s) then none
      else (identifierLength? s).map fun n => (.word (String.ofList (s.take n)), n)

/-- Reads what stands at the start of a text: its lexemes, none if it is blank, and its length. -/
def lexemes? (s : List Char) : Option (List Lexeme × Nat) :=
  match blankLength? s, documentation? s with
  | some n, _ => some ([], n)
  | none, some (text, inner, n) => some (docLexemes text inner, n)
  | none, none => match s with
    | [] => none
    | c :: _ =>
      if startsWith s unreadable then some ([.token (.literal unreadable)], unreadable.length)
      else match Delimiter.opening? c, Delimiter.closing? c with
        | some d, _ => some ([.opening d], 1)
        | _, some d => some ([.closing d], 1)
        | none, none => (leaf? s).map fun (t, n) => ([.token t], n)

/-- Tokens on their way into groups: those of the innermost open group, the last one first, and what
stands before each open group, the innermost first. -/
structure Nesting where
  current : List Token
  outer : List (Delimiter × List Token)

/-- Adds a lexeme, unless it closes what is not open. -/
def Nesting.add? (n : Nesting) : Lexeme → Option Nesting
  | .token t => some { n with current := t :: n.current }
  | .opening d => some ⟨[], (d, n.current) :: n.outer⟩
  | .closing d => match n.outer with
    | (d', before) :: outer =>
      if d = d' then some ⟨.group d n.current.reverse :: before, outer⟩ else none
    | [] => none

/-- Adds all lexemes of a text. -/
def Nesting.read? (n : Nesting) (s : List Char) : Option Nesting :=
  match s with
  | [] => some n
  | c :: rest => match lexemes? (c :: rest) with
    | none => none
    | some (ls, length) => match ls.foldlM Nesting.add? n with
      | none => none
      | some n => n.read? (rest.drop (length - 1))
termination_by s.length
decreasing_by simp only [List.length_cons, List.length_drop]; omega

/-- The text without the mark of its byte order. -/
def withoutOrderMark : List Char → List Char
  | '\ufeff' :: rest => rest
  | s => s

/-- The tokens of a text, unless it is none of tokens. -/
def Token.ofText? (text : String) : Option (List Token) := do
  let n ← Nesting.read? ⟨[], []⟩ (withoutOrderMark text.toList)
  if n.outer.isEmpty then some n.current.reverse else none

/-! ## Writing -/

def Delimiter.texts : Delimiter → String × String
  | parenthesis => ("(", ")")
  | bracket => ("[", "]")
  | brace => ("\x7b ", "\x7d")

def Token.isJoint : Token → Bool
  | mark _ joint => joint
  | _ => false

namespace Token

mutual

/-- The written form of a token. -/
def text : Token → String
  | word t => t
  | literal t => t
  | mark c _ => c.toString
  | group d inner =>
    d.texts.1 ++ listText inner ++ (if d = .brace && !inner.isEmpty then " " else "") ++ d.texts.2

/-- The written form of several tokens. -/
def listText : List Token → String
  | [] => ""
  | [t] => t.text
  | t :: next :: rest => t.text ++ (if t.isJoint then "" else " ") ++ listText (next :: rest)

end

end Token

end ClientGen.Syntax
