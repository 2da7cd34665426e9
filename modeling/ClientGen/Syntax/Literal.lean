import ClientGen.Unicode.Word

/-!
# Literals of source text

They are strings, characters and numbers, each with a suffix if it likes. Every function gives the
number of characters of what stands at the start of a text.
-/

namespace ClientGen.Syntax

open ClientGen.Unicode

def wordLength? : List Char → Option Nat
  | c :: rest =>
    if isWordStart c then some (1 + (rest.takeWhile isWordContinue).length) else none
  | [] => none

def suffixLength (s : List Char) : Nat := (wordLength? s).getD 0

/-! ## Strings and characters -/

/-- What a literal in quotes may hold. -/
inductive Contents
  /-- Any text. -/
  | text
  /-- ASCII characters, and any byte as an escape. -/
  | bytes
  /-- Text that a null character would end. -/
  | terminated
deriving DecidableEq

/-- Whether a literal may hold the character as it is. -/
def Contents.admits (k : Contents) (c : Char) : Bool :=
  match k with
  | text => true
  | bytes => c.toNat < 128
  | terminated => c != '\x00'

def isHexDigit (c : Char) : Bool :=
  ('0' ≤ c && c ≤ '9') || ('a' ≤ c && c ≤ 'f') || ('A' ≤ c && c ≤ 'F')

def hexValue (c : Char) : Nat :=
  if c ≤ '9' then c.toNat - 48 else if c ≤ 'F' then c.toNat - 55 else c.toNat - 87

/-- The length of a code point and its closing brace: `n` characters have been read, and `count`
digits of the value among them. -/
def codePointLength? (k : Contents) (value count n : Nat) : List Char → Option Nat
  | '\x7d' :: _ =>
    if 0 < count && value.isValidChar && (k != .terminated || value != 0) then some (n + 1)
    else none
  | '_' :: rest => if 0 < count then codePointLength? k value count (n + 1) rest else none
  | c :: rest =>
    if isHexDigit c && count < 6 then
      codePointLength? k (16 * value + hexValue c) (count + 1) (n + 1) rest
    else none
  | [] => none

/-- The length of an escape behind its backslash. -/
def escapeLength? (k : Contents) : List Char → Option Nat
  | 'x' :: a :: b :: _ =>
    let fits := match k with
      | .text => '0' ≤ a && a ≤ '7'
      | .bytes => isHexDigit a
      | .terminated => isHexDigit a && !(a == '0' && b == '0')
    if fits && isHexDigit b then some 3 else none
  | 'u' :: '\x7b' :: rest => if k == .bytes then none else codePointLength? k 0 0 2 rest
  | c :: _ =>
    if ['n', 'r', 't', '\\', '\'', '"'].contains c || (c == '0' && k != .terminated) then some 1
    else none
  | [] => none

/-- The length of the blank characters behind a backslash that ends a line. -/
def lineBreakLength? (n : Nat) : List Char → Option Nat
  | '\r' :: '\n' :: rest => lineBreakLength? (n + 2) rest
  | '\r' :: _ => none
  | ' ' :: rest | '\t' :: rest | '\n' :: rest => lineBreakLength? (n + 1) rest
  | [] => none
  | _ => some n

/-- The length of a string of which `n` characters have been read, with its closing quote. A
carriage return must stand before a line feed. -/
def quotedLength? (k : Contents) (n : Nat) (s : List Char) : Option Nat :=
  match s with
  | [] => none
  | '"' :: rest => some (n + 1 + suffixLength rest)
  | '\r' :: '\n' :: rest => quotedLength? k (n + 2) rest
  | '\r' :: _ => none
  | '\\' :: rest =>
    let read := match rest with
      | '\n' :: _ | '\r' :: _ => lineBreakLength? 0 rest
      | _ => escapeLength? k rest
    match read with
    | some m => quotedLength? k (n + 1 + m) (rest.drop m)
    | none => none
  | c :: rest => if k.admits c then quotedLength? k (n + 1) rest else none
termination_by s.length
decreasing_by all_goals simp only [List.length_cons, List.length_drop]; omega

/-- The length of a raw string of which `n` characters have been read, with its closing quote, which
as many number signs follow. -/
def rawLength? (k : Contents) (signs n : Nat) : List Char → Option Nat
  | '"' :: rest =>
    if rest.take signs == List.replicate signs '#' then
      some (n + 1 + signs + suffixLength (rest.drop signs))
    else rawLength? k signs (n + 1) rest
  | '\r' :: '\n' :: rest => rawLength? k signs (n + 2) rest
  | '\r' :: _ => none
  | c :: rest => if k.admits c then rawLength? k signs (n + 1) rest else none
  | [] => none

/-- The length of a raw string from its number signs on. -/
def rawStringLength? (k : Contents) (s : List Char) : Option Nat :=
  let signs := (s.takeWhile (· == '#')).length
  match s.drop signs with
  | '"' :: rest => if signs ≤ 255 then rawLength? k signs (signs + 1) rest else none
  | _ => none

/-- The length of a character behind its opening quote. -/
def characterLength? (k : Contents) (s : List Char) : Option Nat :=
  let read := match s with
    | '\\' :: rest => (escapeLength? k rest).map (· + 1)
    | c :: _ => if k.admits c then some 1 else none
    | [] => none
  match read with
  | some n => match s.drop n with
    | '\'' :: rest => some (n + 1 + suffixLength rest)
    | _ => none
  | none => none

/-! ## Numbers -/

/-- Whether the character is a decimal digit. -/
def isDigit (c : Char) : Bool := '0' ≤ c && c ≤ '9'

/-- Whether the character may stand among digits. -/
def isDigitOrLow (c : Char) : Bool := isDigit c || c == '_'

/-- The length of a number up to the end of its exponent, of which `n` characters have been read;
an exponent without digits is none, and the number ends at `before`. -/
def exponentLength? (before : Option Nat) (signed valued : Bool) (n : Nat) :
    List Char → Option Nat
  | [] => if valued then some n else before
  | c :: rest =>
    if c == '+' || c == '-' then
      if valued then some n
      else if signed then before
      else exponentLength? before true valued (n + 1) rest
    else if isDigit c then exponentLength? before signed true (n + 1) rest
    else if c == '_' then exponentLength? before signed valued (n + 1) rest
    else if valued then some n
    else before

/-- The length of the digits of a number with a point or an exponent. -/
def floatDigitsLength? (s : List Char) : Option Nat :=
  if !s.head?.any isDigit then none
  else
    let whole := (s.takeWhile isDigitOrLow).length
    match s.drop whole with
    | '.' :: rest =>
      if rest.head?.any fun c => c == '.' || isWordStart c then none
      else
        let places := (rest.takeWhile isDigitOrLow).length
        let n := whole + 1 + places
        match rest.drop places with
        | 'e' :: rest | 'E' :: rest => exponentLength? (some n) false false (n + 1) rest
        | _ => some n
    | 'e' :: rest | 'E' :: rest => exponentLength? none false false (whole + 1) rest
    | _ => none

/-- The length of the digits of a whole number in a base, of which `n` characters have been read;
`found` says whether one of them was a digit. -/
def digitsLength? (base : Nat) (found : Bool) (n : Nat) : List Char → Option Nat
  | [] => if found then some n else none
  | c :: rest =>
    let stop := if found then some n else none
    if isDigit c then if hexValue c < base then digitsLength? base true (n + 1) rest else none
    else if isHexDigit c then
      if hexValue c < base then digitsLength? base true (n + 1) rest else stop
    else if c == '_' then
      if !found && base == 10 then none else digitsLength? base found (n + 1) rest
    else stop

/-- The length of the digits of a whole number, with the mark of its base. -/
def wholeDigitsLength? : List Char → Option Nat
  | '0' :: 'x' :: rest => digitsLength? 16 false 2 rest
  | '0' :: 'o' :: rest => digitsLength? 8 false 2 rest
  | '0' :: 'b' :: rest => digitsLength? 2 false 2 rest
  | s => digitsLength? 10 false 0 s

/-- The length of a number whose digits have a length, unless a word goes on behind its suffix. -/
def finishNumber? (s : List Char) (digits : Nat) : Option Nat :=
  let n := digits + suffixLength (s.drop digits)
  if (s.drop n).head?.any isWordContinue then none else some n

def numberLength? (s : List Char) : Option Nat :=
  match (floatDigitsLength? s).bind (finishNumber? s) with
  | some n => some n
  | none => (wholeDigitsLength? s).bind (finishNumber? s)

def literalLength? (s : List Char) : Option Nat :=
  match s with
  | '"' :: rest => quotedLength? .text 1 rest
  | 'b' :: '"' :: rest => quotedLength? .bytes 2 rest
  | 'b' :: 'r' :: rest => (rawStringLength? .bytes rest).map (· + 2)
  | 'c' :: '"' :: rest => quotedLength? .terminated 2 rest
  | 'c' :: 'r' :: rest => (rawStringLength? .terminated rest).map (· + 2)
  | 'b' :: '\'' :: rest => (characterLength? .bytes rest).map (· + 2)
  | '\'' :: rest => (characterLength? .text rest).map (· + 1)
  | 'r' :: rest => (rawStringLength? .text rest).map (· + 1)
  | _ => numberLength? s

/-- Whether a literal is a number, a character or a byte: no string and no number with a point or an
exponent. -/
def isSimpleLiteral (literal : String) : Bool :=
  let s := literal.toList
  match s with
  | '\'' :: _ | 'b' :: '\'' :: _ => true
  | '-' :: rest => isWhole rest
  | _ => literal == "true" || literal == "false" || isWhole s
where
  /-- Whether a literal is a whole number; a suffix makes some a number with a point. -/
  isWhole (s : List Char) : Bool :=
    s.head?.any isDigit && ((floatDigitsLength? s).bind (finishNumber? s)).isNone &&
      !literal.endsWith "f32" && !literal.endsWith "f64"

/-! ## What strings stand for -/

def hexNumber (digits : List Char) : Nat :=
  digits.foldl (fun value c => 16 * value + hexValue c) 0

/-- The character of an escape; the end of a line stands for none. -/
def escapedChar? : List Char → Option Char
  | 'x' :: digits | 'u' :: digits => some (Char.ofNat (hexNumber (digits.filter isHexDigit)))
  | ['n'] => some '\n'
  | ['r'] => some '\r'
  | ['t'] => some '\t'
  | ['0'] => some '\x00'
  | '\n' :: _ | '\r' :: _ => none
  | escape => escape.head?

/-- The characters of a string behind its opening quote. -/
def stringChars (s : List Char) : List Char :=
  match s with
  | [] => []
  | '"' :: _ => []
  | '\r' :: '\n' :: rest => '\n' :: stringChars rest
  | '\\' :: rest =>
    let read := match rest with
      | '\n' :: _ | '\r' :: _ => lineBreakLength? 0 rest
      | _ => escapeLength? .text rest
    let n := read.getD 0
    (escapedChar? (rest.take n)).toList ++ stringChars (rest.drop n)
  | c :: rest => c :: stringChars rest
termination_by s.length
decreasing_by all_goals simp only [List.length_cons, List.length_drop]; omega

/-- The characters of a raw string behind its opening quote. -/
def rawChars (signs : Nat) : List Char → List Char
  | [] => []
  | '"' :: rest =>
    if rest.take signs == List.replicate signs '#' then [] else '"' :: rawChars signs rest
  | c :: rest => c :: rawChars signs rest

/-- The text that a literal stands for, if it is a string. -/
def stringText? (literal : String) : Option String :=
  match literal.toList with
  | '"' :: rest => some (String.ofList (stringChars rest))
  | 'r' :: rest =>
    let signs := (rest.takeWhile (· == '#')).length
    some (String.ofList (rawChars signs (rest.drop (signs + 1))))
  | _ => none

example : stringText? "\"a\\n\\x41\\u\x7b263a\x7d\"" = some "a\nA☺" := by cbv

example : stringText? "r#\"a\"b\"#" = some "a\"b" := by cbv

end ClientGen.Syntax
