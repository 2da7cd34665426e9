import ClientGen.Syntax.Literal
import ClientGen.Text.Quoted
import Mathlib.Data.Nat.Basic

/-!
# What the string literals of generated code stand for

A text that is quoted is one literal, up to its closing quote, and the literal stands for the text.
-/

namespace ClientGen.Syntax

open ClientGen.Text

/-! ## Hexadecimal digits -/

theorem hexNumber_concat (digits : List Char) (c : Char) :
    hexNumber (digits ++ [c]) = 16 * hexNumber digits + hexValue c := by
  rw [hexNumber, List.foldl_append]
  rfl

theorem hexValue_digitChar : ∀ d < 16, isHexDigit d.digitChar = true ∧ hexValue d.digitChar = d := by
  decide

theorem isHexDigit_of_mem_hexDigits {n : Nat} : ∀ c ∈ hexDigits n, isHexDigit c = true := by
  unfold hexDigits
  induction n using Nat.strong_induction_on with
  | _ n ih =>
    by_cases hn : n < 16
    · rw [Nat.toDigits_of_lt_base hn]
      intro c hc
      obtain rfl := List.mem_singleton.1 hc
      exact (hexValue_digitChar n hn).1
    · rw [Nat.toDigits_of_base_le (by decide) (Nat.le_of_not_lt hn)]
      intro c hc
      rcases List.mem_append.1 hc with hc | hc
      · exact ih (n / 16) (by omega) c hc
      · obtain rfl := List.mem_singleton.1 hc
        exact (hexValue_digitChar _ (Nat.mod_lt _ (by decide))).1

theorem hexNumber_hexDigits (n : Nat) : hexNumber (hexDigits n) = n := by
  unfold hexDigits
  induction n using Nat.strong_induction_on with
  | _ n ih =>
    by_cases hn : n < 16
    · rw [Nat.toDigits_of_lt_base hn]
      exact (Nat.zero_add _).trans (hexValue_digitChar n hn).2
    · rw [Nat.toDigits_of_base_le (by decide) (Nat.le_of_not_lt hn), hexNumber_concat,
        ih (n / 16) (by omega), (hexValue_digitChar _ (Nat.mod_lt _ (by decide))).2]
      exact Nat.div_add_mod n 16

theorem length_hexDigits_le (c : Char) : (hexDigits c.toNat).length ≤ 6 := by
  refine (Nat.length_toDigits_le_iff (by decide) (by decide)).2 ?_
  have hvalid := c.valid
  have hsmall : c.toNat < 0x110000 := by
    rcases hvalid with h | h
    · exact Nat.lt_trans h (by decide)
    · exact h.2
  exact Nat.lt_trans hsmall (by decide)

/-- Hexadecimal digits of a character, six at most, are read up to the brace behind them. -/
theorem codePointLength?_digits (rest digits : List Char) :
    ∀ value count n, (∀ c ∈ digits, isHexDigit c = true) → 0 < count + digits.length →
      count + digits.length ≤ 6 →
      (digits.foldl (fun value c => 16 * value + hexValue c) value).isValidChar →
      codePointLength? .text value count n (digits ++ '\x7d' :: rest) =
        some (n + digits.length + 1) := by
  induction digits with
  | nil =>
    intro value count n _ hpos _ hvalid
    have hcount : 0 < count := hpos
    have hvalid : value.isValidChar := hvalid
    simp [codePointLength?, hcount, hvalid]
  | cons c digits ih =>
    intro value count n hdigits hpos hle hvalid
    have hc := hdigits c List.mem_cons_self
    have hclose : c ≠ '\x7d' := by
      rintro rfl
      exact absurd hc (by decide)
    have hlow : c ≠ '_' := by
      rintro rfl
      exact absurd hc (by decide)
    rw [List.length_cons] at hle ⊢
    have hcount : count < 6 := by omega
    rw [List.cons_append, codePointLength?.eq_3 _ _ _ _ _ _ hclose hlow, hc]
    rw [ih _ _ _ (fun d hd => hdigits d (List.mem_cons_of_mem _ hd)) (by omega) (by omega) hvalid]
    simp [hcount]
    omega

/-! ## Characters -/

/-- The escape stands for the character, and is read to its end whatever follows. -/
structure IsEscapeOf (c : Char) (escape : List Char) : Prop where
  read : ∀ rest, escapeLength? .text (escape ++ rest) = some escape.length
  char : escapedChar? escape = some c
  notNewline : escape.head? ≠ some '\n'
  notReturn : escape.head? ≠ some '\r'

theorem isEscapeOf_codePoint (c : Char) :
    IsEscapeOf c ('u' :: '\x7b' :: (hexDigits c.toNat ++ ['\x7d'])) where
  read rest := by
    have hvalid : (hexNumber (hexDigits c.toNat)).isValidChar := by
      rw [hexNumber_hexDigits]
      exact c.valid
    have hpos : 0 < (hexDigits c.toNat).length := Nat.length_toDigits_pos
    have hread := codePointLength?_digits rest (hexDigits c.toNat) 0 0 2
      isHexDigit_of_mem_hexDigits (by omega) (by have := length_hexDigits_le c; omega) hvalid
    rw [List.cons_append, List.cons_append, List.append_assoc]
    simp only [escapeLength?]
    simp [hread]
    omega
  char := by
    have hdigits : ('\x7b' :: (hexDigits c.toNat ++ ['\x7d'])).filter isHexDigit =
        hexDigits c.toNat := by
      have hall := List.filter_eq_self.2 (@isHexDigit_of_mem_hexDigits c.toNat)
      rw [List.filter_cons_of_neg (by decide), List.filter_append, hall]
      exact List.append_nil _
    rw [escapedChar?, hdigits, hexNumber_hexDigits, Char.ofNat_toNat]
  notNewline := by simp
  notReturn := by simp

theorem isEscapeOf_short {c x : Char} (hx : x ∈ ['n', 'r', 't', '\\', '"', '0'])
    (hc : escapedChar? [x] = some c) : IsEscapeOf c [x] := by
  simp only [List.mem_cons, List.not_mem_nil, or_false] at hx
  refine ⟨fun rest => ?_, hc, ?_, ?_⟩ <;>
    rcases hx with rfl | rfl | rfl | rfl | rfl | rfl <;> simp [escapeLength?]

/-- A character of a literal is its escape, or the character itself where this needs none. -/
theorem literalChar_cases (c : Char) :
    (∃ escape, literalChar c = '\\' :: escape ∧ IsEscapeOf c escape) ∨
      (literalChar c = [c] ∧ c ≠ '"' ∧ c ≠ '\\' ∧ c ≠ '\r') := by
  unfold literalChar
  by_cases hquote : c = '"'
  · subst hquote
    exact .inl ⟨['"'], rfl, isEscapeOf_short (by decide) rfl⟩
  by_cases hslash : c = '\\'
  · subst hslash
    exact .inl ⟨['\\'], rfl, isEscapeOf_short (by decide) rfl⟩
  by_cases hnewline : c = '\n'
  · subst hnewline
    exact .inl ⟨['n'], rfl, isEscapeOf_short (by decide) rfl⟩
  by_cases hreturn : c = '\r'
  · subst hreturn
    exact .inl ⟨['r'], rfl, isEscapeOf_short (by decide) rfl⟩
  by_cases htab : c = '\t'
  · subst htab
    exact .inl ⟨['t'], rfl, isEscapeOf_short (by decide) rfl⟩
  rw [if_neg hquote, if_neg hslash, if_neg hnewline, if_neg hreturn, if_neg htab]
  by_cases hnull : c.toNat = 0
  · obtain rfl : c = '\x00' := Char.toNat_inj.1 hnull
    exact .inl ⟨['0'], rfl, isEscapeOf_short (by decide) rfl⟩
  rw [if_neg hnull]
  split
  · exact .inl ⟨_, rfl, isEscapeOf_codePoint c⟩
  · exact .inr ⟨rfl, hquote, hslash, hreturn⟩

/-! ## Literals -/

section

variable {c : Char} {escape rest : List Char}

/-- What is behind a backslash is not the end of a line. -/
theorem IsEscapeOf.append_ne (h : IsEscapeOf c escape) (tail : List Char) :
    escape ++ rest ≠ '\n' :: tail ∧ escape ++ rest ≠ '\r' :: tail := by
  have hnewline := h.notNewline
  have hreturn := h.notReturn
  cases escape with
  | nil => cases h.char
  | cons x escape => simp_all

theorem stringChars_escape (h : IsEscapeOf c escape) :
    stringChars ('\\' :: (escape ++ rest)) = c :: stringChars rest := by
  rw [stringChars]
  · simp [h.read, h.char]
  · exact fun tail => (h.append_ne tail).1
  · exact fun tail => (h.append_ne tail).2

theorem stringChars_char (hquote : c ≠ '"') (hslash : c ≠ '\\') (hreturn : c ≠ '\r') :
    stringChars (c :: rest) = c :: stringChars rest := by
  rw [stringChars]
  all_goals simp_all

theorem quotedLength?_escape (h : IsEscapeOf c escape) (n : Nat) :
    quotedLength? .text n ('\\' :: (escape ++ rest)) =
      quotedLength? .text (n + 1 + escape.length) rest := by
  rw [quotedLength?]
  · simp [h.read]
  · exact fun tail => (h.append_ne tail).1
  · exact fun tail => (h.append_ne tail).2

theorem quotedLength?_char (hquote : c ≠ '"') (hslash : c ≠ '\\') (hreturn : c ≠ '\r') (n : Nat) :
    quotedLength? .text n (c :: rest) = quotedLength? .text (n + 1) rest := by
  rw [quotedLength?]
  · exact if_pos rfl
  all_goals simp_all

end

/-- A literal is read character by character, by induction over the text. -/
theorem read_literalChars (text rest : List Char) (n : Nat) :
    stringChars (text.flatMap literalChar ++ '"' :: rest) = text ∧
    quotedLength? .text n (text.flatMap literalChar ++ '"' :: rest) =
      some (n + (text.flatMap literalChar).length + 1 + suffixLength rest) := by
  induction text generalizing n with
  | nil => exact ⟨by rw [List.flatMap_nil, List.nil_append, stringChars], by simp [quotedLength?]⟩
  | cons c text ih =>
    rw [List.flatMap_cons, List.append_assoc]
    rcases literalChar_cases c with ⟨escape, hc, hescape⟩ | ⟨hc, hquote, hslash, hreturn⟩
    · obtain ⟨hchars, hlength⟩ := ih (n + 1 + escape.length)
      rw [hc, List.cons_append, stringChars_escape hescape, hchars, quotedLength?_escape hescape,
        hlength]
      simp
      omega
    · obtain ⟨hchars, hlength⟩ := ih (n + 1)
      rw [hc, List.singleton_append, stringChars_char hquote hslash hreturn, hchars,
        quotedLength?_char hquote hslash hreturn, hlength]
      simp
      omega

/-- The source text is one string literal, and stands for the text. -/
structure IsLiteralOf (source text : String) : Prop where
  whole : literalLength? source.toList = some source.length
  text : stringText? source = some text

theorem isLiteralOf_literal (text : String) : IsLiteralOf (literal text) text := by
  obtain ⟨hchars, hlength⟩ := read_literalChars text.toList [] 1
  have hlist : (literal text).toList = '"' :: (text.toList.flatMap literalChar ++ ['"']) :=
    String.toList_ofList
  refine ⟨?_, ?_⟩
  · rw [hlist, ← String.length_toList, hlist]
    simp only [literalLength?]
    rw [hlength]
    simp [suffixLength, wordLength?]
    omega
  · rw [stringText?, hlist]
    simp only [hchars, String.ofList_toList]

end ClientGen.Syntax
