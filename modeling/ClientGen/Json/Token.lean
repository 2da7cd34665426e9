import ClientGen.Json.Value

/-!
# JSON text as tokens

Reading stops at the first token that is not one; what is wrong there is kept as the last token,
because its weight depends on what the reader of the tokens expects. String and number tokens keep
the parts they were written with, so that a reader that skips them does not interpret them.
-/

namespace ClientGen.Json

open ClientGen.Decimal

/-- What is wrong at the place where reading stopped. -/
inductive Fault
  /-- The text ended before a value. -/
  | ended
  /-- The text ended inside a number. -/
  | endedInNumber
  /-- The text ended inside `null`. -/
  | endedInNull
  /-- The text ended inside `true` or `false`. -/
  | endedInBool
  /-- The text goes on with something that does not belong there. -/
  | malformed
deriving DecidableEq

/-! ## Strings -/

/-- A character of a string, or one UTF-16 unit written as an escape. -/
inductive Piece
  | char (c : Char)
  | unit (n : Nat)
deriving DecidableEq

inductive TextEnd
  | closed
  | ended
  | malformed
deriving DecidableEq

structure RawText where
  pieces : List Piece
  ending : TextEnd
deriving DecidableEq

def hexValue? (c : Char) : Option Nat :=
  if '0' ≤ c ∧ c ≤ '9' then some (c.toNat - '0'.toNat)
  else if 'a' ≤ c ∧ c ≤ 'f' then some (c.toNat - 'a'.toNat + 10)
  else if 'A' ≤ c ∧ c ≤ 'F' then some (c.toNat - 'A'.toNat + 10)
  else none

/-- The UTF-16 unit of four hexadecimal digits, and what follows them. -/
def hexUnit? : List Char → Option (Nat × List Char)
  | a :: b :: c :: d :: rest => do
    let a ← hexValue? a
    let b ← hexValue? b
    let c ← hexValue? c
    let d ← hexValue? d
    pure (((a * 16 + b) * 16 + c) * 16 + d, rest)
  | _ => none

/-- The character that a backslash and a letter stand for. -/
def simpleEscape? : Char → Option Char
  | '"' => some '"'
  | '\\' => some '\\'
  | '/' => some '/'
  | 'b' => some '\x08'
  | 'f' => some '\x0c'
  | 'n' => some '\n'
  | 'r' => some '\r'
  | 't' => some '\t'
  | _ => none

/-- Whether at least four bytes of text are left. -/
def holdsFourBytes (cs : List Char) : Bool :=
  4 ≤ (String.ofList (cs.take 4)).utf8ByteSize

theorem length_of_hexUnit? {cs rest : List Char} {n : Nat} (h : hexUnit? cs = some (n, rest)) :
    rest.length < cs.length := by
  match cs, h with
  | a :: b :: c :: d :: tail, h =>
    simp only [hexUnit?, Option.bind_eq_bind, Option.bind_eq_some_iff, Option.pure_def,
      Option.some.injEq, Prod.mk.injEq] at h
    obtain ⟨_, _, _, _, _, _, _, _, _, rfl⟩ := h
    simp only [List.length_cons]
    omega

/-- Reads a string after its opening quote; `done` holds the pieces read, last first. The result is
the string and the text after it. -/
def scanText (done : List Piece) (cs : List Char) : RawText × List Char :=
  match cs with
  | [] => (⟨done.reverse, .ended⟩, [])
  | '"' :: rest => (⟨done.reverse, .closed⟩, rest)
  | '\\' :: 'u' :: rest =>
    match _h : hexUnit? rest with
    | some (n, rest') => scanText (.unit n :: done) rest'
    | none => (⟨done.reverse, if holdsFourBytes rest then .malformed else .ended⟩, [])
  | '\\' :: c :: rest =>
    match simpleEscape? c with
    | some e => scanText (.char e :: done) rest
    | none => (⟨done.reverse, .malformed⟩, [])
  | ['\\'] => (⟨done.reverse, .ended⟩, [])
  | c :: rest =>
    if c.toNat < 32 then (⟨done.reverse, .malformed⟩, []) else scanText (.char c :: done) rest
termination_by cs.length
decreasing_by
  · have := length_of_hexUnit? _h; simp only [List.length_cons]; omega
  · simp only [List.length_cons]; omega
  · simp only [List.length_cons]; omega

theorem length_scanText (done : List Piece) (cs : List Char) :
    (scanText done cs).2.length ≤ cs.length := by
  fun_induction scanText done cs with
  | case1 | case4 | case6 | case7 | case8 => simp
  | case2 => simp
  | case3 done rest n rest' h ih =>
    have := length_of_hexUnit? h; simp only [List.length_cons]; omega
  | case5 done c rest _ e h ih => simp only [List.length_cons]; omega
  | case9 done c rest _ _ _ h ih => simp only [List.length_cons]; omega

/-! ## Numbers -/

structure Numeral where
  negative : Bool
  whole : List Char
  fraction : List Char
  /-- The sign and the digits of the exponent; the sign is `true` for a minus. -/
  exponent : Option (Bool × List Char)
  /-- Whether it has a point or an exponent. -/
  isDecimal : Bool
deriving DecidableEq

/-- Whether the character is a decimal digit. -/
def isDigit (c : Char) : Bool := '0' ≤ c && c ≤ '9'

/-- What is wrong where a digit of a number is missing. -/
def missingDigit : List Char → Fault
  | [] => .endedInNumber
  | _ => .malformed

/-- A sign of an exponent, `true` for a minus, and what follows it. -/
def splitSign : List Char → Bool × List Char
  | '-' :: rest => (true, rest)
  | '+' :: rest => (false, rest)
  | rest => (false, rest)

/-- Reads the exponent of a number whose other parts are known. -/
def scanExponent (n : Numeral) : List Char → Except Fault (Numeral × List Char)
  | [] => .ok (n, [])
  | c :: rest =>
    if c = 'e' ∨ c = 'E' then
      if ((splitSign rest).2.takeWhile isDigit).isEmpty then
        .error (missingDigit (splitSign rest).2)
      else
        .ok ({ n with
            exponent := some ((splitSign rest).1, (splitSign rest).2.takeWhile isDigit)
            isDecimal := true },
          (splitSign rest).2.dropWhile isDigit)
    else .ok (n, c :: rest)

/-- Reads what follows the whole part of a number. -/
def scanFraction (n : Numeral) : List Char → Except Fault (Numeral × List Char)
  | '.' :: rest =>
    if (rest.takeWhile isDigit).isEmpty then .error (missingDigit rest)
    else
      scanExponent { n with fraction := rest.takeWhile isDigit, isDecimal := true }
        (rest.dropWhile isDigit)
  | rest => scanExponent n rest

/-- Reads a number after its sign. A leading zero stands alone. -/
def scanNumeral (negative : Bool) : List Char → Except Fault (Numeral × List Char)
  | '0' :: rest =>
    if rest.head?.any isDigit then .error .malformed
    else scanFraction ⟨negative, ['0'], [], none, false⟩ rest
  | rest =>
    if (rest.takeWhile isDigit).isEmpty then .error (missingDigit rest)
    else
      scanFraction ⟨negative, rest.takeWhile isDigit, [], none, false⟩ (rest.dropWhile isDigit)

theorem length_dropWhile_lt {p : Char → Bool} {cs : List Char}
    (h : ¬(cs.takeWhile p).isEmpty = true) : (cs.dropWhile p).length < cs.length := by
  have hsplit := congrArg List.length (List.takeWhile_append_dropWhile (p := p) (l := cs))
  have hne : (cs.takeWhile p).length ≠ 0 := fun h0 => h (by simp [List.length_eq_zero_iff.1 h0])
  simp only [List.length_append] at hsplit
  omega

theorem length_splitSign (cs : List Char) : (splitSign cs).2.length ≤ cs.length := by
  unfold splitSign
  split <;> simp

theorem length_scanExponent {n m : Numeral} {cs rest : List Char}
    (h : scanExponent n cs = .ok (m, rest)) : rest.length ≤ cs.length := by
  cases cs with
  | nil => cases h; simp
  | cons c tail =>
    simp only [scanExponent] at h
    split at h
    · split at h
      · cases h
      · cases h
        have := (List.dropWhile_suffix (l := (splitSign tail).2) isDigit).length_le
        have := length_splitSign tail
        simp only [List.length_cons]; omega
    · cases h; simp

theorem length_scanFraction {n m : Numeral} {cs rest : List Char}
    (h : scanFraction n cs = .ok (m, rest)) : rest.length ≤ cs.length := by
  unfold scanFraction at h
  split at h
  · split at h
    · cases h
    · rename_i tail _
      have := length_scanExponent h
      have := (List.dropWhile_suffix (l := tail) isDigit).length_le
      simp only [List.length_cons]; omega
  · exact length_scanExponent h

theorem length_scanNumeral {negative : Bool} {m : Numeral} {cs rest : List Char}
    (h : scanNumeral negative cs = .ok (m, rest)) : rest.length < cs.length := by
  unfold scanNumeral at h
  split at h
  · split at h
    · cases h
    · have := length_scanFraction h
      simp only [List.length_cons]; omega
  · split at h
    · cases h
    · rename_i hne
      exact Nat.lt_of_le_of_lt (length_scanFraction h) (length_dropWhile_lt hne)

/-! ## Tokens -/

inductive Token
  | openBrace
  | closeBrace
  | openBracket
  | closeBracket
  | comma
  | colon
  | null
  | bool (b : Bool)
  | number (n : Numeral)
  | text (t : RawText)
  | fault (f : Fault)
deriving DecidableEq

/-- The blanks between tokens. -/
def isSpace (c : Char) : Bool := c == ' ' || c == '\n' || c == '\t' || c == '\r'

/-- Reads the rest of a word; `early` is the fault of a text that ends in it. -/
def scanWord (early : Fault) : List Char → List Char → Except Fault (List Char)
  | [], rest => .ok rest
  | _ :: _, [] => .error early
  | w :: word, c :: rest => if w = c then scanWord early word rest else .error .malformed

theorem length_scanWord {early : Fault} {word cs rest : List Char}
    (h : scanWord early word cs = .ok rest) :
    rest.length ≤ cs.length := by
  induction word generalizing cs with
  | nil => cases cs <;> cases h <;> simp
  | cons w word ih =>
    cases cs with
    | nil => cases h
    | cons c cs =>
      simp only [scanWord] at h
      split at h
      · have := ih h; simp only [List.length_cons]; omega
      · cases h

/-- The tokens of a text. A token that is broken is the last one. -/
def tokens (cs : List Char) : List Token :=
  match cs with
  | [] => []
  | c :: rest =>
    if isSpace c then tokens rest
    else match c with
      | '{' => .openBrace :: tokens rest
      | '}' => .closeBrace :: tokens rest
      | '[' => .openBracket :: tokens rest
      | ']' => .closeBracket :: tokens rest
      | ',' => .comma :: tokens rest
      | ':' => .colon :: tokens rest
      | '"' =>
        let scanned := scanText [] rest
        .text scanned.1 :: if scanned.1.ending = .closed then tokens scanned.2 else []
      | 'n' =>
        match _h : scanWord .endedInNull "ull".toList rest with
        | .ok rest' => .null :: tokens rest'
        | .error f => [.fault f]
      | 't' =>
        match _h : scanWord .endedInBool "rue".toList rest with
        | .ok rest' => .bool true :: tokens rest'
        | .error f => [.fault f]
      | 'f' =>
        match _h : scanWord .endedInBool "alse".toList rest with
        | .ok rest' => .bool false :: tokens rest'
        | .error f => [.fault f]
      | '-' =>
        match _h : scanNumeral true rest with
        | .ok (n, rest') => .number n :: tokens rest'
        | .error f => [.fault f]
      | _ =>
        if isDigit c then
          match _h : scanNumeral false (c :: rest) with
          | .ok (n, rest') => .number n :: tokens rest'
          | .error f => [.fault f]
        else [.fault .malformed]
termination_by cs.length
decreasing_by
  all_goals simp only [List.length_cons]
  any_goals omega
  · have := length_scanText [] rest; omega
  · have := length_scanWord _h; omega
  · have := length_scanWord _h; omega
  · have := length_scanWord _h; omega
  · have := length_scanNumeral _h; omega
  · have := length_scanNumeral _h; simp only [List.length_cons] at this; omega

end ClientGen.Json
