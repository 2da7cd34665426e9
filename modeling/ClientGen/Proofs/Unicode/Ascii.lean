import ClientGen.Unicode.Case

/-!
# Letter case of ASCII texts

In ASCII every letter has one small and one capital form, whatever stands around it. What holds of
single characters is checked for all of them.
-/

namespace ClientGen.Unicode

/-- All characters of the text are ASCII. -/
def IsAscii (cs : List Char) : Prop := ∀ c ∈ cs, c.toNat < 128

@[elab_as_elim]
theorem forall_ascii {p : Char → Prop} {c : Char} (hc : c.toNat < 128)
    (h : ∀ n < 128, p (Char.ofNat n)) : p c :=
  Char.ofNat_toNat c ▸ h c.toNat hc

variable {c : Char}

/-! ## Characters -/

theorem isUppercase_ascii (hc : c.toNat < 128) : isUppercase c = c.isUpper := if_pos hc

theorem lowerChars_ascii (hc : c.toNat < 128) : lowerChars c = [c.toLower] := if_pos hc

theorem upperChars_ascii (hc : c.toNat < 128) : upperChars c = [c.toUpper] := if_pos hc

theorem toNat_toLower_lt (hc : c.toNat < 128) : c.toLower.toNat < 128 :=
  forall_ascii hc (by decide)

theorem isUpper_toLower (hc : c.toNat < 128) : c.toLower.isUpper = false :=
  forall_ascii hc (by decide)

theorem toLower_eq_self (hc : c.toNat < 128) : c.isUpper = false → c.toLower = c :=
  forall_ascii hc (by decide)

theorem toLower_eq_of_mem (hc : c.toNat < 128) : c.toLower ∈ ['_', '-', ' ', '.'] → c.toLower = c :=
  forall_ascii hc (by decide)

theorem isAlphanum_toLower (hc : c.toNat < 128) : c.toLower.isAlphanum = c.isAlphanum :=
  forall_ascii hc (by decide)

theorem isAlpha_toUpper (hc : c.toNat < 128) : c.toUpper.isAlpha = c.isAlpha :=
  forall_ascii hc (by decide)

theorem isAlphanum_toUpper (hc : c.toNat < 128) : c.toUpper.isAlphanum = c.isAlphanum :=
  forall_ascii hc (by decide)

theorem isLower_toUpper (hc : c.toNat < 128) : c.toUpper.isLower = false :=
  forall_ascii hc (by decide)

theorem toNat_lt_of_isAlphanum (h : c.isAlphanum = true) : c.toNat < 128 := by
  have hbelow : ∀ b : Char, b.toNat < 128 → c.val ≤ b.val → c.toNat < 128 := fun b hb hle =>
    Nat.lt_of_le_of_lt (UInt32.le_iff_toNat_le.1 hle) hb
  rcases Bool.or_eq_true_iff.1 h with hletter | hdigit
  · rcases Bool.or_eq_true_iff.1 hletter with hupper | hlower
    · exact hbelow 'Z' (by decide) (of_decide_eq_true hupper).2
    · exact hbelow 'z' (by decide) (of_decide_eq_true (Bool.and_eq_true_iff.1 hlower).2)
  · exact hbelow '9' (by decide) (of_decide_eq_true (Bool.and_eq_true_iff.1 hdigit).2)

/-! ## Texts -/

theorem lowercaseAfter_ascii {before cs : List Char} (h : IsAscii cs) :
    lowercaseAfter before cs = cs.map Char.toLower := by
  induction cs generalizing before with
  | nil => rfl
  | cons c rest ih =>
    obtain ⟨hc, hrest⟩ := List.forall_mem_cons.1 h
    have hsigma : c ≠ 'Σ' := by
      rintro rfl
      exact absurd hc (by decide)
    rw [lowercaseAfter, if_neg hsigma, lowerChars_ascii hc, ih hrest]
    rfl

theorem lowercase_ascii {cs : List Char} (h : IsAscii cs) : lowercase cs = cs.map Char.toLower :=
  lowercaseAfter_ascii h

end ClientGen.Unicode
