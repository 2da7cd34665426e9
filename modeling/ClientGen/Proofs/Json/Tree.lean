import ClientGen.Json.Node
import ClientGen.Json.Printer

/-!
# The tree of a printed value

Every value has a tree. Its printed text, at any indentation, is read as this tree wherever a value
may stand and whatever follows, as long as that does not go on with the digits of a number. Doubles
are left out, as their digits need not give the same double again.
-/

namespace ClientGen.Json

/-! ## Trees of values -/

/-- How a character of a printed string is read. -/
def pieceOf (c : Char) : Piece :=
  if c.toNat < 32 ∧ c ∉ ['\n', '\r', '\t', '\x08', '\x0c'] then .unit c.toNat else .char c

def RawText.ofString (s : String) : RawText := ⟨s.toList.map pieceOf, .closed⟩

theorem RawText.ending_ofString (s : String) : (RawText.ofString s).ending = .closed := rfl

def Numeral.ofInt (n : Int) : Numeral := ⟨decide (n < 0), Nat.toDigits 10 n.natAbs, [], none, false⟩

namespace Value

mutual

/-- The tree of a value; a zero stands for a double. -/
def node : Value → Node
  | .null => .null
  | .bool b => .bool b
  | .number (.integer n) => .number (.ofInt n)
  | .number (.double _) => .number (.ofInt 0)
  | .string s => .text (.ofString s)
  | .array elements => .array (nodes elements) .closed
  | .object fields => .object (entries fields) .closed

def nodes : List Value → List Node
  | [] => []
  | v :: rest => v.node :: nodes rest

def entries : List (String × Value) → List (RawText × Node)
  | [] => []
  | (name, v) :: rest => (.ofString name, v.node) :: entries rest

end

mutual

/-- Whether there is no double in the value. -/
def isExact : Value → Bool
  | .number (.double _) => false
  | .null | .bool _ | .number (.integer _) | .string _ => true
  | .array elements => areExact elements
  | .object fields => areExactFields fields

def areExact : List Value → Bool
  | [] => true
  | v :: rest => v.isExact && areExact rest

def areExactFields : List (String × Value) → Bool
  | [] => true
  | (_, v) :: rest => v.isExact && areExactFields rest

end

theorem nodes_eq_map (vs : List Value) : nodes vs = vs.map node := by
  induction vs with
  | nil => rw [nodes, List.map_nil]
  | cons v vs ih => rw [nodes, List.map_cons, ih]

theorem areExact_iff {vs : List Value} : areExact vs = true ↔ ∀ v ∈ vs, v.isExact = true := by
  induction vs with
  | nil => simp [areExact]
  | cons v vs ih => simp [areExact, ih]

theorem areExactFields_iff {fields : List (String × Value)} :
    areExactFields fields = true ↔ ∀ f ∈ fields, f.2.isExact = true := by
  induction fields with
  | nil => simp [areExactFields]
  | cons f fields ih => simp [areExactFields, ih]

end Value

/-! ## Strings -/

theorem hexValue?_hexDigit : ∀ n < 16, hexValue? (hexDigit n) = some n := by decide

theorem hexUnit?_control {n : Nat} (h : n < 32) (rest : List Char) :
    hexUnit? ('0' :: '0' :: hexDigit (n / 16) :: hexDigit (n % 16) :: rest) = some (n, rest) := by
  have hzero : hexValue? '0' = some 0 := by decide
  have hhigh := hexValue?_hexDigit (n / 16) (by omega)
  have hlow := hexValue?_hexDigit (n % 16) (by omega)
  have hn : ((0 * 16 + 0) * 16 + n / 16) * 16 + n % 16 = n := by omega
  simp only [hexUnit?, hzero, hhigh, hlow, Option.bind_eq_bind, Option.bind_some, hn]
  rfl

/-- A character is escaped by a letter, escaped by its number, or written as it is. -/
theorem escapeChar_cases (c : Char) :
    (∃ letter, escapeChar c = ['\\', letter] ∧ simpleEscape? letter = some c ∧
      pieceOf c = .char c) ∨
    (c.toNat < 32 ∧ pieceOf c = .unit c.toNat ∧ escapeChar c =
      ['\\', 'u', '0', '0', hexDigit (c.toNat / 16), hexDigit (c.toNat % 16)]) ∨
    (c ≠ '"' ∧ c ≠ '\\' ∧ ¬ c.toNat < 32 ∧ escapeChar c = [c] ∧ pieceOf c = .char c) := by
  by_cases hletter : c ∈ ['"', '\\', '\n', '\r', '\t', '\x08', '\x0c']
  · left
    simp only [List.mem_cons, List.not_mem_nil, or_false] at hletter
    rcases hletter with rfl | rfl | rfl | rfl | rfl | rfl | rfl
    · exact ⟨'"', rfl, rfl, rfl⟩
    · exact ⟨'\\', rfl, rfl, rfl⟩
    · exact ⟨'n', rfl, rfl, rfl⟩
    · exact ⟨'r', rfl, rfl, rfl⟩
    · exact ⟨'t', rfl, rfl, rfl⟩
    · exact ⟨'b', rfl, rfl, rfl⟩
    · exact ⟨'f', rfl, rfl, rfl⟩
  · right
    simp only [List.mem_cons, List.not_mem_nil, or_false, not_or] at hletter
    by_cases hcontrol : c.toNat < 32
    · left
      simp [hcontrol, pieceOf, escapeChar, hletter]
    · right
      simp [hcontrol, pieceOf, escapeChar, hletter]

theorem scanText_letter {letter c : Char} (h : simpleEscape? letter = some c) (done : List Piece)
    (rest : List Char) :
    scanText done ('\\' :: letter :: rest) = scanText (.char c :: done) rest := by
  have hu : letter ≠ 'u' := by
    rintro rfl
    cases h
  rw [scanText]
  · rw [h]
  · simpa using hu

theorem scanText_unit {n : Nat} {cs rest : List Char} (h : hexUnit? cs = some (n, rest))
    (done : List Piece) :
    scanText done ('\\' :: 'u' :: cs) = scanText (.unit n :: done) rest := by
  rw [scanText]
  split
  · rename_i m rest' hm
    obtain ⟨rfl, rfl⟩ := Prod.mk.inj (Option.some.inj (hm.symm.trans h))
    rfl
  · rename_i hnone
    cases hnone.symm.trans h

theorem scanText_char {c : Char} (hquote : c ≠ '"') (hslash : c ≠ '\\') (hprinted : ¬ c.toNat < 32)
    (done : List Piece) (rest : List Char) :
    scanText done (c :: rest) = scanText (.char c :: done) rest := by
  rw [scanText]
  · rw [if_neg hprinted]
  all_goals simp_all

theorem scanText_escapeChar (done : List Piece) (c : Char) (rest : List Char) :
    scanText done (escapeChar c ++ rest) = scanText (pieceOf c :: done) rest := by
  rcases escapeChar_cases c with ⟨letter, hescape, hletter, hpiece⟩ |
    ⟨hcontrol, hpiece, hescape⟩ | ⟨hquote, hslash, hprinted, hescape, hpiece⟩
  · rw [hescape, hpiece]
    exact scanText_letter hletter done rest
  · rw [hescape, hpiece]
    exact scanText_unit (hexUnit?_control hcontrol rest) done
  · rw [hescape, hpiece]
    exact scanText_char hquote hslash hprinted done rest

/-- A printed string is read as its pieces, up to the closing quote. -/
theorem scanText_flatMap (done : List Piece) (cs rest : List Char) :
    scanText done (cs.flatMap escapeChar ++ '"' :: rest) =
      (⟨done.reverse ++ cs.map pieceOf, .closed⟩, rest) := by
  induction cs generalizing done with
  | nil => simp [scanText]
  | cons c cs ih =>
    rw [List.flatMap_cons, List.append_assoc, scanText_escapeChar, ih]
    simp

theorem tokens_quote (s : String) (rest : List Char) :
    tokens (quote s ++ rest) = .text (.ofString s) :: tokens rest := by
  rw [quote, List.cons_append, List.append_assoc, List.singleton_append, tokens.eq_def]
  simp [isSpace, scanText_flatMap, RawText.ofString]

/-! ## Integers -/

/-- What follows a number is not read as a part of it. -/
def EndsNumber (rest : List Char) : Prop :=
  ∀ c, rest.head? = some c → isDigit c = false ∧ c ≠ '.' ∧ c ≠ 'e' ∧ c ≠ 'E'

theorem isDigit_of_mem_toDigits {n : Nat} {c : Char} (h : c ∈ Nat.toDigits 10 n) :
    isDigit c = true :=
  Nat.isDigit_of_mem_toDigits (by decide) (by decide) h

/-- A leading zero stands alone. -/
theorem eq_nil_of_toDigits {n : Nat} {ds : List Char} (h : Nat.toDigits 10 n = '0' :: ds) :
    ds = [] := by
  induction n using Nat.strongRecOn generalizing ds with
  | _ n ih =>
    by_cases hn : n < 10
    · rw [Nat.toDigits_of_lt_base hn] at h
      exact (List.cons.inj h).2.symm
    · rw [Nat.toDigits_of_base_le (by decide) (by omega)] at h
      cases hfront : Nat.toDigits 10 (n / 10) with
      | nil => exact absurd hfront (List.ne_nil_of_length_pos Nat.length_toDigits_pos)
      | cons d front =>
        rw [hfront] at h
        obtain rfl := (List.cons.inj h).1
        obtain rfl := ih (n / 10) (by omega) hfront
        have hzero := Nat.ofDigitChars_toDigits (b := 10) (n := n / 10) (by decide) (by decide)
        rw [hfront] at hzero
        have : n / 10 = 0 := hzero.symm.trans rfl
        omega

theorem takeWhile_digits {ds rest : List Char} (hds : ∀ c ∈ ds, isDigit c = true)
    (hrest : EndsNumber rest) : (ds ++ rest).takeWhile isDigit = ds := by
  rw [List.takeWhile_append_of_pos hds]
  cases rest with
  | nil => simp
  | cons c rest => simp [(hrest c rfl).1]

theorem dropWhile_digits {ds rest : List Char} (hds : ∀ c ∈ ds, isDigit c = true)
    (hrest : EndsNumber rest) : (ds ++ rest).dropWhile isDigit = rest := by
  rw [List.dropWhile_append_of_pos hds]
  cases rest with
  | nil => rfl
  | cons c rest => simp [(hrest c rfl).1]

theorem scanFraction_none {rest : List Char} (hrest : EndsNumber rest) (n : Numeral) :
    scanFraction n rest = .ok (n, rest) := by
  cases rest with
  | nil => rfl
  | cons c rest =>
    obtain ⟨-, hpoint, hsmall, hlarge⟩ := hrest c rfl
    rw [scanFraction]
    · simp [scanExponent, hsmall, hlarge]
    · simp [hpoint]

theorem scanNumeral_toDigits {rest : List Char} (hrest : EndsNumber rest) (negative : Bool)
    (n : Nat) : scanNumeral negative (Nat.toDigits 10 n ++ rest) =
      .ok (⟨negative, Nat.toDigits 10 n, [], none, false⟩, rest) := by
  have hdigits : ∀ c ∈ Nat.toDigits 10 n, isDigit c = true := fun c => isDigit_of_mem_toDigits
  have htake := takeWhile_digits hdigits hrest
  have hdrop := dropWhile_digits hdigits hrest
  cases hn : Nat.toDigits 10 n with
  | nil => exact absurd hn (List.ne_nil_of_length_pos Nat.length_toDigits_pos)
  | cons d ds =>
    rw [hn] at htake hdrop
    by_cases hd : d = '0'
    · subst hd
      obtain rfl := eq_nil_of_toDigits hn
      have hnone : rest.head?.any isDigit = false := by
        cases rest with
        | nil => rfl
        | cons c rest => exact (hrest c rfl).1
      simp [scanNumeral, hnone, scanFraction_none hrest]
    · rw [List.cons_append] at htake hdrop ⊢
      rw [scanNumeral]
      · simp [htake, hdrop, scanFraction_none hrest]
      · simp [hd]

/-- The digits of a number that are not followed by more of a number are one token. -/
theorem tokens_digits (n : Nat) {rest : List Char} (hrest : EndsNumber rest) :
    tokens (Nat.toDigits 10 n ++ rest) =
      .number ⟨false, Nat.toDigits 10 n, [], none, false⟩ :: tokens rest := by
  have hscan := scanNumeral_toDigits hrest false n
  cases hn : Nat.toDigits 10 n with
  | nil => exact absurd hn (List.ne_nil_of_length_pos Nat.length_toDigits_pos)
  | cons d ds =>
    rw [hn] at hscan
    have hd : isDigit d = true := isDigit_of_mem_toDigits (hn ▸ List.mem_cons_self)
    have hspace : ¬ isSpace d = true := by
      intro hspace
      simp only [isSpace, Bool.or_eq_true, beq_iff_eq] at hspace
      rcases hspace with ((rfl | rfl) | rfl) | rfl <;> cases hd
    rw [List.cons_append, tokens.eq_def]
    dsimp only
    rw [if_neg hspace]
    split
    case h_12 =>
      rw [if_pos hd]
      split
      · rename_i m rest' hm
        obtain ⟨rfl, rfl⟩ := Prod.mk.inj (Except.ok.inj (hm.symm.trans hscan))
        rfl
      · rename_i hfault
        cases hfault.symm.trans hscan
    -- None of the other tokens begins with a digit.
    all_goals cases hd

theorem tokens_integer (n : Int) {rest : List Char} (hrest : EndsNumber rest) :
    tokens ((Number.integer n).text.toList ++ rest) = .number (.ofInt n) :: tokens rest := by
  have hrepr : ∀ m : Nat, (toString m).toList = Nat.toDigits 10 m := fun m => by
    rw [Nat.toString_eq_ofList_toDigits, String.toList_ofList]
  cases n with
  | ofNat n =>
    have htext : (Number.integer (Int.ofNat n)).text.toList = Nat.toDigits 10 n := hrepr n
    rw [htext, tokens_digits n hrest]
    rfl
  | negSucc n =>
    have htext : (Number.integer (Int.negSucc n)).text.toList = '-' :: Nat.toDigits 10 (n + 1) := by
      have hminus : (Number.integer (Int.negSucc n)).text = "-" ++ toString (n + 1) := rfl
      rw [hminus, String.toList_append, hrepr]
      rfl
    have hint : Numeral.ofInt (Int.negSucc n) =
        ⟨true, Nat.toDigits 10 (n + 1), [], none, false⟩ := by
      rw [Numeral.ofInt, decide_eq_true (Int.negSucc_lt_zero n), Int.natAbs_negSucc]
    have hscan := scanNumeral_toDigits hrest true (n + 1)
    rw [hint, htext, List.cons_append, tokens.eq_def]
    dsimp only
    rw [if_neg (by decide)]
    split
    case h_11 =>
      split
      · rename_i m rest' hm
        obtain ⟨rfl, rfl⟩ := Prod.mk.inj (Except.ok.inj (hm.symm.trans hscan))
        rfl
      · rename_i hfault
        cases hfault.symm.trans hscan
    -- No other token begins with a minus.
    all_goals contradiction

/-! ## Reading on -/

def Token.mark? : Char → Option Token
  | '{' => some .openBrace
  | '}' => some .closeBrace
  | '[' => some .openBracket
  | ']' => some .closeBracket
  | ',' => some .comma
  | ':' => some .colon
  | _ => none

theorem tokens_mark {c : Char} {t : Token} (h : Token.mark? c = some t) (rest : List Char) :
    tokens (c :: rest) = t :: tokens rest := by
  unfold Token.mark? at h
  split at h <;> cases h <;> exact tokens.eq_def _

theorem tokens_space {c : Char} (h : isSpace c = true) (rest : List Char) :
    tokens (c :: rest) = tokens rest := by
  rw [tokens.eq_def]
  exact if_pos h

theorem tokens_null (rest : List Char) : tokens ("null".toList ++ rest) = .null :: tokens rest := by
  have hnull : "null".toList ++ rest = 'n' :: ("ull".toList ++ rest) := rfl
  rw [hnull, tokens.eq_def]
  simp [isSpace, scanWord]

theorem tokens_true (rest : List Char) :
    tokens ("true".toList ++ rest) = .bool true :: tokens rest := by
  have htrue : "true".toList ++ rest = 't' :: ("rue".toList ++ rest) := rfl
  rw [htrue, tokens.eq_def]
  simp [isSpace, scanWord]

theorem tokens_false (rest : List Char) :
    tokens ("false".toList ++ rest) = .bool false :: tokens rest := by
  have hfalse : "false".toList ++ rest = 'f' :: ("alse".toList ++ rest) := rfl
  rw [hfalse, tokens.eq_def]
  simp [isSpace, scanWord]

namespace Progress

variable {p : Progress} {slots outer : List Slot} {rest : List Char}

/-- How far a text has been read after what was read before it. -/
def read (p : Progress) (cs : List Char) : Progress := (tokens cs).foldl step p

/-- A value may come next, to be put into the slots. -/
def Awaits (p : Progress) (slots : List Slot) : Prop :=
  ∀ t : Token, t ≠ .closeBracket → p.step t = t.asValue slots

theorem awaits_value : (value slots).Awaits slots := fun _ _ => rfl

theorem awaits_firstElement : (firstElement outer).Awaits (.element [] :: outer) := by
  intro t ht
  cases t <;> first | rfl | exact absurd rfl ht

theorem awaits_nextElement {elements : List Node} :
    (nextElement outer elements).Awaits (.element elements :: outer) := by
  intro t ht
  cases t <;> first | rfl | exact absurd rfl ht

/-- A key may come next, to be put behind the entries. -/
def AwaitsKey (p : Progress) (outer : List Slot) (entries : List (RawText × Node)) : Prop :=
  ∀ t : RawText, t.ending = .closed → p.step (.text t) = .colon outer entries t

theorem awaitsKey_firstKey : (firstKey outer).AwaitsKey outer [] := fun _ h => if_pos h

theorem awaitsKey_nextKey {entries : List (RawText × Node)} :
    (nextKey outer entries).AwaitsKey outer entries := fun _ h => if_pos h

theorem read_of_tokens {cs : List Char} {t : Token} (h : tokens cs = t :: tokens rest) :
    p.read cs = (p.step t).read rest := by
  rw [read, h, List.foldl_cons, read]

theorem Awaits.read_eq {cs : List Char} {t : Token} (hp : p.Awaits slots)
    (h : tokens cs = t :: tokens rest) (ht : t ≠ .closeBracket) :
    p.read cs = (t.asValue slots).read rest := by
  rw [read_of_tokens h, hp t ht]

theorem read_mark {c : Char} {t : Token} (h : Token.mark? c = some t) :
    p.read (c :: rest) = (p.step t).read rest :=
  read_of_tokens (tokens_mark h rest)

theorem read_space {c : Char} (h : isSpace c = true) : p.read (c :: rest) = p.read rest := by
  rw [read, tokens_space h, read]

theorem read_newLine (level : Nat) : p.read (Value.newLine level ++ rest) = p.read rest := by
  rw [Value.newLine, List.cons_append, read_space (by decide)]
  induction 2 * level with
  | zero => rfl
  | succ n ih => rw [List.replicate_succ, List.cons_append, read_space (by decide), ih]

theorem AwaitsKey.read_field {entries : List (RawText × Node)} (hp : p.AwaitsKey outer entries)
    (name : String) : p.read (quote name ++ ':' :: ' ' :: rest) =
      (value (.entry entries (.ofString name) :: outer)).read rest := by
  rw [read_of_tokens (tokens_quote name _), hp _ rfl, read_mark rfl, step, read_space (by decide)]

end Progress

theorem endsNumber_newLine (level : Nat) (rest : List Char) :
    EndsNumber (Value.newLine level ++ rest) := by
  intro c hc
  obtain rfl := Option.some.inj hc
  decide

theorem endsNumber_comma (rest : List Char) : EndsNumber (',' :: rest) := by
  intro c hc
  obtain rfl := Option.some.inj hc
  decide

namespace Value

open Progress

mutual

/-- A printed value is put as its tree into the slot that awaits it. -/
theorem read_prettyChars {p : Progress} {slots : List Slot} {rest : List Char} (level : Nat) :
    ∀ v : Value, v.isExact = true → p.Awaits slots → EndsNumber rest →
      p.read (v.prettyChars level ++ rest) = (place v.node slots).read rest
  | .null, _, hp, _ => by
    rw [prettyChars, hp.read_eq (tokens_null rest) nofun, Token.asValue, node]
  | .bool true, _, hp, _ => by
    rw [prettyChars, hp.read_eq (tokens_true rest) nofun, Token.asValue, node]
  | .bool false, _, hp, _ => by
    rw [prettyChars, hp.read_eq (tokens_false rest) nofun, Token.asValue, node]
  | .number (.integer n), _, hp, hrest => by
    rw [prettyChars, hp.read_eq (tokens_integer n hrest) nofun, Token.asValue, node]
  | .number (.double _), hexact, _, _ => by cases hexact
  | .string s, _, hp, _ => by
    rw [prettyChars, hp.read_eq (tokens_quote s rest) nofun, Token.asValue,
      if_pos (RawText.ending_ofString s), node]
  | .array [], _, hp, _ => by
    rw [prettyChars, List.cons_append, List.singleton_append,
      hp.read_eq (t := .openBracket) (tokens_mark rfl _) nofun, Token.asValue, read_mark rfl]
    rfl
  | .array (v :: vs), hexact, hp, _ => by
    rw [prettyChars, List.cons_append, hp.read_eq (t := .openBracket) (tokens_mark rfl _) nofun,
      Token.asValue]
    simp only [List.append_assoc, List.singleton_append]
    rw [read_newLine,
      read_prettyElements (level + 1) level (v :: vs) [] hexact awaits_firstElement nofun]
    rfl
  | .object [], _, hp, _ => by
    rw [prettyChars, List.cons_append, List.singleton_append,
      hp.read_eq (t := .openBrace) (tokens_mark rfl _) nofun, Token.asValue, read_mark rfl]
    rfl
  | .object (f :: fs), hexact, hp, _ => by
    rw [prettyChars, List.cons_append, hp.read_eq (t := .openBrace) (tokens_mark rfl _) nofun,
      Token.asValue]
    simp only [List.append_assoc, List.singleton_append]
    rw [read_newLine,
      read_prettyFields (level + 1) level (f :: fs) [] hexact awaitsKey_firstKey nofun]
    rfl

/-- Printed elements are put behind those before them, up to the closing bracket. -/
theorem read_prettyElements {p : Progress} {outer : List Slot} {rest : List Char}
    (level outside : Nat) : ∀ (vs : List Value) (done : List Node), areExact vs = true →
      p.Awaits (.element done :: outer) → vs ≠ [] →
      p.read (joinComma (newLine level) (prettyElements level vs) ++
        (newLine outside ++ ']' :: rest)) =
          (place (.array (done.reverse ++ nodes vs) .closed) outer).read rest
  | [], _, _, _, hne => absurd rfl hne
  | [v], done, hexact, hp, _ => by
    have hv : v.isExact = true := (Bool.and_eq_true_iff.1 hexact).1
    rw [prettyElements, prettyElements, joinComma,
      read_prettyChars level v hv hp (endsNumber_newLine _ _), place, read_newLine, read_mark rfl,
      step, List.reverse_cons, nodes, nodes]
  | v :: w :: vs, done, hexact, hp, _ => by
    obtain ⟨hv, hvs⟩ := Bool.and_eq_true_iff.1 hexact
    have hjoin : joinComma (newLine level) (prettyElements level (v :: w :: vs)) =
        v.prettyChars level ++ ',' :: (newLine level ++
          joinComma (newLine level) (prettyElements level (w :: vs))) := by
      rw [prettyElements, prettyElements]
      rfl
    rw [hjoin, List.append_assoc, List.cons_append,
      read_prettyChars level v hv hp (endsNumber_comma _), place, read_mark rfl, step,
      List.append_assoc, read_newLine,
      read_prettyElements level outside (w :: vs) (v.node :: done) hvs awaits_nextElement nofun,
      List.reverse_cons, List.append_assoc, List.singleton_append, ← nodes]

/-- Printed fields are put behind those before them, up to the closing brace. -/
theorem read_prettyFields {p : Progress} {outer : List Slot} {rest : List Char}
    (level outside : Nat) : ∀ (fs : List (String × Value)) (done : List (RawText × Node)),
      areExactFields fs = true → p.AwaitsKey outer done → fs ≠ [] →
      p.read (joinComma (newLine level) (prettyFields level fs) ++
        (newLine outside ++ '}' :: rest)) =
          (place (.object (done.reverse ++ entries fs) .closed) outer).read rest
  | [], _, _, _, hne => absurd rfl hne
  | [(name, v)], done, hexact, hp, _ => by
    have hv : v.isExact = true := (Bool.and_eq_true_iff.1 hexact).1
    rw [prettyFields, prettyFields, joinComma, List.append_assoc, List.cons_append,
      List.cons_append, hp.read_field,
      read_prettyChars level v hv awaits_value (endsNumber_newLine _ _), place, read_newLine,
      read_mark rfl, step, List.reverse_cons, entries, entries]
  | (name, v) :: g :: fs, done, hexact, hp, _ => by
    obtain ⟨hv, hfs⟩ := Bool.and_eq_true_iff.1 hexact
    have hjoin : joinComma (newLine level) (prettyFields level ((name, v) :: g :: fs)) =
        quote name ++ ':' :: ' ' :: (v.prettyChars level ++ ',' :: (newLine level ++
          joinComma (newLine level) (prettyFields level (g :: fs)))) := by
      obtain ⟨other, w⟩ := g
      rw [prettyFields, prettyFields, joinComma]
      · simp
      · exact nofun
    rw [hjoin]
    simp only [List.append_assoc, List.cons_append]
    rw [hp.read_field,
      read_prettyChars level v hv awaits_value (endsNumber_comma _), place, read_mark rfl, step,
      read_newLine,
      read_prettyFields level outside (g :: fs) ((.ofString name, v.node) :: done) hfs
        awaitsKey_nextKey nofun,
      List.reverse_cons, List.append_assoc, List.singleton_append, ← entries]

end

/-- The tree of a printed value is that of the value, and nothing follows it. -/
theorem ofText_pretty {v : Value} (h : v.isExact = true) :
    Document.ofText v.pretty = ⟨v.node, false⟩ := by
  have hread : (Progress.value []).read (v.prettyChars 0 ++ []) = _ :=
    read_prettyChars 0 v h awaits_value nofun
  rw [List.append_nil] at hread
  have htokens : Progress.read (place v.node []) [] = .complete v.node := by
    rw [Progress.read, tokens.eq_def]
    rfl
  rw [Document.ofText, pretty, String.toList_ofList, ← Progress.read, hread, htokens]
  rfl

end Value

end ClientGen.Json
