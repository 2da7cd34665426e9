import Mathlib.Algebra.Group.Int.Defs
import Mathlib.Algebra.Group.Nat.Defs
import ClientGen.Json.Decode
import ClientGen.Proofs.Json.Tree
import ClientGen.Proofs.Results

/-!
# Values read off trees

A value that was read off some tree, however it was written there, is read off its own tree too:
strings and integers keep what they stand for, and the fields of an object are in order after the
first reading.
-/

namespace ClientGen.Json

open ClientGen.Decimal

/-! ## Strings -/

/-- A UTF-16 unit that is no part of a pair is a character by itself. -/
theorem decodePieces_unit {n : Nat} (hn : n < 0xd800) (ending : TextEnd) (rest : List Piece) :
    decodePieces ending (.unit n :: rest) =
      (decodePieces ending rest).map (Char.ofNat n :: ·) := by
  have hlow : ¬ (0xdc00 ≤ n ∧ n ≤ 0xdfff) := by omega
  have hhigh : ¬ (0xd800 ≤ n ∧ n ≤ 0xdbff) := by omega
  rw [decodePieces.eq_def]
  dsimp only
  rw [if_neg hlow, if_neg hhigh, map_eq_bind]
  rfl

theorem decodePieces_map (cs : List Char) : decodePieces .closed (cs.map pieceOf) = .ok cs := by
  induction cs with
  | nil => rfl
  | cons c cs ih =>
    rw [List.map_cons]
    by_cases hcontrol : c.toNat < 32 ∧ c ∉ ['\n', '\r', '\t', '\x08', '\x0c']
    · rw [pieceOf, if_pos hcontrol, decodePieces_unit (by omega), ih, Char.ofNat_toNat]
      rfl
    · rw [pieceOf, if_neg hcontrol, decodePieces, ih]
      rfl

@[simp] theorem RawText.decode_ofString (s : String) : (RawText.ofString s).decode = .ok s := by
  rw [decode, ofString, decodePieces_map, Except.map, String.ofList_toList]

/-! ## Integers -/

theorem appendDigits_of_lt {n : Nat} {ds : List Char} (h : Nat.ofDigitChars 10 ds n < 2 ^ 64) :
    appendDigits n ds = (Nat.ofDigitChars 10 ds n, []) := by
  induction ds generalizing n with
  | nil => rfl
  | cons d ds ih =>
    rw [Nat.ofDigitChars_cons, Nat.mul_comm] at h ⊢
    have hnext : n * 10 + digitValue d < Nat.pow 2 64 := by
      have hle : n * 10 + digitValue d ≤ Nat.ofDigitChars 10 ds (n * 10 + digitValue d) := by
        rw [Nat.ofDigitChars_eq_ofDigitChars_zero]
        have hpos : 0 < 10 ^ ds.length := Nat.pow_pos (by decide)
        exact Nat.le_add_right_of_le (Nat.le_mul_of_pos_left _ hpos)
      exact Nat.lt_of_le_of_lt hle h
    rw [appendDigits, if_pos hnext]
    exact ih h

theorem appendDigits_lt {n : Nat} (hn : n < 2 ^ 64) (ds : List Char) :
    (appendDigits n ds).1 < 2 ^ 64 := by
  induction ds generalizing n with
  | nil => exact hn
  | cons d ds ih =>
    rw [appendDigits]
    split
    · rename_i hnext
      exact ih hnext
    · exact hn

namespace Numeral

theorem value?_ofInt {n : Int} (hlow : -2 ^ 63 ≤ n) (hhigh : n < 2 ^ 64) :
    (ofInt n).value? = some (.integer n) := by
  have hdigits : Nat.ofDigitChars 10 (Nat.toDigits 10 n.natAbs) 0 = n.natAbs :=
    Nat.ofDigitChars_toDigits (by decide) (by decide)
  have hread : appendDigits 0 (ofInt n).whole = (n.natAbs, []) := by
    have hlt : Nat.ofDigitChars 10 (Nat.toDigits 10 n.natAbs) 0 < 2 ^ 64 := by
      rw [hdigits]
      omega
    rw [ofInt, appendDigits_of_lt hlt, hdigits]
  have hdecimal : (ofInt n).isDecimal = false := rfl
  rw [value?, hread]
  dsimp only
  rw [if_pos (by simp [hdecimal])]
  by_cases hn : n < 0
  · have hnegative : (ofInt n).negative = true := decide_eq_true hn
    have hrange : 0 < n.natAbs ∧ n.natAbs ≤ Nat.pow 2 63 := by
      constructor
      · omega
      · have hle : n.natAbs ≤ 2 ^ 63 := by omega
        exact hle
    rw [if_neg (by simp [hnegative]), if_pos hrange]
    congr 2
    omega
  · have hnegative : (ofInt n).negative = false := decide_eq_false hn
    rw [if_pos (by simp [hnegative])]
    congr 2
    omega

theorem bounds_of_value? {numeral : Numeral} {n : Int} (h : numeral.value? = some (.integer n)) :
    -2 ^ 63 ≤ n ∧ n < 2 ^ 64 := by
  have hhead := appendDigits_lt (n := 0) (by decide) numeral.whole
  have hdouble : ∀ (f : Option Float) negative,
      f.map (signedDouble negative) ≠ some (.integer n) := by
    intro f negative hf
    obtain ⟨_, -, hf⟩ := Option.map_eq_some_iff.1 hf
    cases hf
  rw [value?] at h
  dsimp only at h
  split at h
  · split at h
    · obtain rfl := Number.integer.inj (Option.some.inj h)
      omega
    · split at h
      · rename_i hrange
        obtain rfl := Number.integer.inj (Option.some.inj h)
        have hle : (appendDigits 0 numeral.whole).1 ≤ 2 ^ 63 := hrange.2
        omega
      · cases h
  · split at h
    · exact absurd h (hdouble _ _)
    · split at h
      · exact absurd h (hdouble _ _)
      · split at h <;> cases h

/-- An integer that was read is read off its own digits. -/
theorem decode_ofInt {numeral : Numeral} {n : Int} (h : numeral.decode = .ok (.integer n)) :
    (ofInt n).decode = .ok (.integer n) := by
  have hvalue : numeral.value? = some (.integer n) := by
    unfold decode at h
    split at h
    · rename_i hvalue
      rw [hvalue, Except.ok.inj h]
    · cases h
  obtain ⟨hlow, hhigh⟩ := bounds_of_value? hvalue
  rw [decode, value?_ofInt hlow hhigh]

end Numeral

/-! ## Objects -/

namespace Value

def Ascending (fields : List (String × Value)) : Prop := fields.Pairwise fun f g => f.1 < g.1

theorem mem_insertField {name : String} {v : Value} {fields : List (String × Value)}
    {f : String × Value} (h : f ∈ insertField name v fields) : f = (name, v) ∨ f ∈ fields := by
  induction fields with
  | nil => exact .inl (List.mem_singleton.1 h)
  | cons g fields ih =>
    rw [insertField] at h
    split at h
    · exact List.mem_cons.1 h
    · split at h
      · rcases List.mem_cons.1 h with h | h
        · exact .inl h
        · exact .inr (List.mem_cons_of_mem _ h)
      · rcases List.mem_cons.1 h with rfl | h
        · exact .inr List.mem_cons_self
        · exact (ih h).imp_right (List.mem_cons_of_mem _)

theorem Ascending.insertField {name : String} {v : Value} {fields : List (String × Value)}
    (h : Ascending fields) : Ascending (insertField name v fields) := by
  induction fields with
  | nil => exact List.pairwise_singleton _ _
  | cons g fields ih =>
    obtain ⟨hg, hfields⟩ := List.pairwise_cons.1 h
    rw [Value.insertField]
    split
    · rename_i hlt
      refine List.pairwise_cons.2 ⟨fun f hf => ?_, h⟩
      rcases List.mem_cons.1 hf with rfl | hf
      · exact hlt
      · exact String.lt_trans hlt (hg f hf)
    · rename_i hnot
      split
      · rename_i heq
        exact List.pairwise_cons.2 ⟨fun f hf => heq ▸ hg f hf, hfields⟩
      · rename_i hne
        refine List.pairwise_cons.2 ⟨fun f hf => ?_, ih hfields⟩
        rcases mem_insertField hf with rfl | hf
        · exact Decidable.byContradiction fun hge => hne (String.le_antisymm hge hnot)
        · exact hg f hf

/-- A field whose name is behind all others is put at the end. -/
theorem insertField_of_forall_lt {name : String} {v : Value} {fields : List (String × Value)}
    (h : ∀ f ∈ fields, f.1 < name) : insertField name v fields = fields ++ [(name, v)] := by
  induction fields with
  | nil => rfl
  | cons g fields ih =>
    have hg := h g List.mem_cons_self
    have hne : name ≠ g.1 := fun heq => String.lt_irrefl _ (heq ▸ hg)
    rw [insertField, if_neg (String.lt_asymm hg), if_neg hne,
      ih fun f hf => h f (List.mem_cons_of_mem _ hf), List.cons_append]

/-- The value is read off its own tree where no more than these containers may be entered. -/
def IsReread (depth : Nat) (v : Value) : Prop := v.node.toValue depth = .ok v

theorem toValues_nodes {depth : Nat} {vs : List Value} (h : ∀ v ∈ vs, IsReread depth v) :
    toValues depth (nodes vs) = .ok vs := by
  induction vs with
  | nil => rfl
  | cons v vs ih =>
    have hv : v.node.toValue depth = .ok v := h v List.mem_cons_self
    rw [nodes, toValues, hv, ih fun w hw => h w (List.mem_cons_of_mem _ hw)]
    rfl

/-- Fields in order are read back one behind the other. -/
theorem toFields_entries {depth : Nat} {done fields : List (String × Value)}
    (hsorted : Ascending (done ++ fields)) (h : ∀ f ∈ fields, IsReread depth f.2) :
    toFields depth done (entries fields) = .ok (done ++ fields) := by
  induction fields generalizing done with
  | nil => rw [entries, toFields, List.append_nil]
  | cons f fields ih =>
    obtain ⟨name, v⟩ := f
    have hv : v.node.toValue depth = .ok v := h _ List.mem_cons_self
    have hlast : ∀ g ∈ done, g.1 < name := fun g hg =>
      (List.pairwise_append.1 hsorted).2.2 g hg _ List.mem_cons_self
    rw [← List.singleton_append, ← List.append_assoc] at hsorted
    rw [entries, toFields, RawText.decode_ofString, bind_ok, hv, bind_ok,
      insertField_of_forall_lt hlast, ih hsorted fun g hg => h g (List.mem_cons_of_mem _ hg),
      List.append_assoc, List.singleton_append]

end Value

open Value

mutual

/-- What was read off a tree is read off its own tree. -/
theorem isReread_of_toValue (depth : Nat) : ∀ (node : Node) {v : Value},
    node.toValue depth = .ok v → v.isExact = true → IsReread depth v
  | .fault _, v, h, _ => by cases h
  | .null, v, h, _ => by
    obtain rfl := Except.ok.inj h
    rfl
  | .bool b, v, h, _ => by
    obtain rfl := Except.ok.inj h
    rfl
  | .number n, v, h, hexact => by
    obtain ⟨number, hnumber, rfl⟩ := map_eq_ok.1 h
    cases number with
    | integer n =>
      rw [IsReread, node, Node.toValue, Numeral.decode_ofInt hnumber]
      rfl
    | double d => cases hexact
  | .text t, v, h, _ => by
    obtain ⟨s, -, rfl⟩ := map_eq_ok.1 h
    rw [IsReread, node, Node.toValue, RawText.decode_ofString]
    rfl
  | .array elements ending, v, h, hexact => by
    match depth, h with
    | inner + 2, h =>
      obtain ⟨vs, hvs, h⟩ := bind_eq_ok.1 h
      obtain ⟨-, -, h⟩ := bind_eq_ok.1 h
      obtain rfl := Except.ok.inj h
      have hreread := areReread_of_toValues (inner + 1) elements hvs (areExact_iff.1 hexact)
      rw [IsReread, node, Node.toValue, toValues_nodes hreread]
      rfl
    | 0, h | 1, h => cases h
  | .object entries ending, v, h, hexact => by
    match depth, h with
    | inner + 2, h =>
      -- The fields come out in order, so when they are read again each is put at the end.
      obtain ⟨fields, hfields, h⟩ := bind_eq_ok.1 h
      obtain ⟨-, -, h⟩ := bind_eq_ok.1 h
      obtain rfl := Except.ok.inj h
      obtain ⟨hsorted, hreread⟩ := areReread_of_toFields (inner + 1) entries hfields .nil nofun
      have hall : toFields (inner + 1) [] (Value.entries fields) = .ok ([] ++ fields) :=
        toFields_entries hsorted fun f hf => hreread f hf (areExactFields_iff.1 hexact f hf)
      rw [IsReread, node, Node.toValue, hall]
      rfl
    | 0, h | 1, h => cases h

theorem areReread_of_toValues (depth : Nat) : ∀ (nodes : List Node) {vs : List Value},
    toValues depth nodes = .ok vs → (∀ v ∈ vs, v.isExact = true) → ∀ v ∈ vs, IsReread depth v
  | [], vs, h, _ => by
    obtain rfl := Except.ok.inj h
    exact nofun
  | node :: nodes, vs, h, hexact => by
    obtain ⟨v, hv, h⟩ := bind_eq_ok.1 h
    obtain ⟨rest, hrest, h⟩ := bind_eq_ok.1 h
    obtain rfl := Except.ok.inj h
    intro w hw
    rcases List.mem_cons.1 hw with rfl | hw
    · exact isReread_of_toValue depth node hv (hexact _ List.mem_cons_self)
    · exact areReread_of_toValues depth nodes hrest
        (fun u hu => hexact u (List.mem_cons_of_mem _ hu)) w hw

/-- The fields of an object are in order whatever the order in the text was, and each of them is the
last of its name. -/
theorem areReread_of_toFields (depth : Nat) : ∀ (entries : List (RawText × Node))
    {done fields : List (String × Value)}, toFields depth done entries = .ok fields →
    Ascending done → (∀ f ∈ done, f.2.isExact = true → IsReread depth f.2) →
    Ascending fields ∧ ∀ f ∈ fields, f.2.isExact = true → IsReread depth f.2
  | [], done, fields, h, hsorted, hdone => by
    obtain rfl := Except.ok.inj h
    exact ⟨hsorted, hdone⟩
  | (key, node) :: entries, done, fields, h, hsorted, hdone => by
    obtain ⟨name, -, h⟩ := bind_eq_ok.1 h
    obtain ⟨v, hv, h⟩ := bind_eq_ok.1 h
    refine areReread_of_toFields depth entries h hsorted.insertField fun f hf hexact => ?_
    rcases mem_insertField hf with rfl | hf
    · exact isReread_of_toValue depth node hv hexact
    · exact hdone f hf hexact

end

end ClientGen.Json
