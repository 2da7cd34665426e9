import ClientGen.Crate.Settings
import Mathlib.Data.List.Basic

/-!
# Names and versions that settings may have

The check of the settings accepts exactly the names that start with a letter and go on with letters,
digits, hyphens and underscores, and exactly the versions that are three numbers. A version for a
manifest is stricter in one point: its numbers have no zero in front. This is not looked at, so that
the accepted versions are those of manifests and, in addition, those with a number like `01`.
-/

namespace ClientGen.Settings

/-! ## What a manifest takes -/

/-- The text starts with an ASCII letter and goes on with ASCII letters, digits, hyphens and
underscores. -/
def IsCrateName (name : String) : Prop :=
  ∃ first rest, name.toList = first :: rest ∧ first.isAlpha = true ∧
    ∀ c ∈ rest, c.isAlphanum = true ∨ c = '-' ∨ c = '_'

/-- The text consists of ASCII digits, at least one of them. -/
structure IsNumber (text : List Char) : Prop where
  ne_nil : text ≠ []
  digits : ∀ c ∈ text, c.isDigit = true

/-- A zero stands in front of another character. -/
def HasLeadingZero (text : List Char) : Prop := ∃ c rest, text = '0' :: c :: rest

/-- A number that is `0` itself or starts with another digit. -/
structure IsNumericIdentifier (text : List Char) : Prop extends IsNumber text where
  leading : ¬ HasLeadingZero text

/-- The text has three parts of the same kind, with a point between two of them. -/
def IsTriple (part : List Char → Prop) (text : String) : Prop :=
  ∃ major minor patch, text.toList = major ++ '.' :: (minor ++ '.' :: patch) ∧
    part major ∧ part minor ∧ part patch

/-- The text is a version for a manifest. -/
def IsRelease (version : String) : Prop := IsTriple IsNumericIdentifier version

/-- The parts of a text between its points. -/
def parts (text : String) : List (List Char) := text.toList.splitOn '.'

/-! ## Characters -/

theorem isAsciiLetter_eq (c : Char) : isAsciiLetter c = c.isAlpha := by
  have hlower : ('a' ≤ c && c ≤ 'z') = c.isLower := rfl
  have hupper : ('A' ≤ c && c ≤ 'Z') = c.isUpper := (Bool.decide_and _ _).symm
  rw [isAsciiLetter, hlower, hupper, Bool.or_comm]
  rfl

theorem isAsciiDigit_eq_isDigit (c : Char) : Naming.isAsciiDigit c = c.isDigit := rfl

theorem isNameChar_iff {c : Char} :
    isNameChar c = true ↔ c.isAlphanum = true ∨ c = '-' ∨ c = '_' := by
  have halphanum : (c.isAlpha || c.isDigit) = c.isAlphanum := rfl
  rw [isNameChar, isAsciiLetter_eq, isAsciiDigit_eq_isDigit, halphanum, Bool.or_eq_true,
    Bool.or_eq_true, beq_iff_eq, beq_iff_eq, or_assoc]

theorem isValidName_iff {name : String} : isValidName name = true ↔ IsCrateName name := by
  unfold isValidName IsCrateName
  cases name.toList with
  | nil => simp
  | cons first rest =>
    simp only [List.head?_cons, Option.any_some, List.all_cons, Bool.and_eq_true, List.all_eq_true,
      isAsciiLetter_eq, isNameChar_iff]
    constructor
    · rintro ⟨hfirst, -, hrest⟩
      exact ⟨first, rest, rfl, hfirst, hrest⟩
    · rintro ⟨first', rest', heq, hfirst, hrest⟩
      obtain ⟨rfl, rfl⟩ := List.cons.inj heq
      exact ⟨hfirst, .inl (Bool.or_eq_true_iff.2 (.inl hfirst)), hrest⟩

/-! ## Parts between points -/

section Parts

variable {part : List Char → Prop} {text : String}

/-- Parts without points are those between the points. -/
theorem isTriple_iff_parts (hpoint : ∀ t, part t → '.' ∉ t) :
    IsTriple part text ↔ (parts text).length = 3 ∧ ∀ t ∈ parts text, part t := by
  unfold IsTriple parts
  constructor
  · rintro ⟨major, minor, patch, htext, hmajor, hminor, hpatch⟩
    rw [htext, List.splitOn_append_cons_self_of_not_mem (hpoint _ hmajor),
      List.splitOn_append_cons_self_of_not_mem (hpoint _ hminor),
      List.splitOn_eq_singleton (hpoint _ hpatch)]
    simp [hmajor, hminor, hpatch]
  · rintro ⟨hlength, hparts⟩
    obtain ⟨major, minor, patch, heq⟩ := List.length_eq_three.1 hlength
    rw [heq] at hparts
    refine ⟨major, minor, patch, ?_, hparts major (by simp), hparts minor (by simp),
      hparts patch (by simp)⟩
    have hjoined : ['.'].intercalate (text.toList.splitOn '.') = text.toList :=
      List.intercalate_splitOn '.'
    rw [← hjoined, heq]
    simp [List.intercalate]

theorem IsNumber.point_not_mem {t : List Char} (h : IsNumber t) : '.' ∉ t := fun hmem =>
  absurd (h.digits '.' hmem) (by decide)

theorem isNumber_iff {t : List Char} :
    (!t.isEmpty && t.all Naming.isAsciiDigit) = true ↔ IsNumber t := by
  rw [Bool.and_eq_true, Bool.not_eq_true', List.isEmpty_eq_false_iff, List.all_eq_true]
  simp only [isAsciiDigit_eq_isDigit]
  exact ⟨fun ⟨hne, hdigits⟩ => ⟨hne, hdigits⟩, fun h => ⟨h.ne_nil, h.digits⟩⟩

theorem isValidVersion_iff : isValidVersion text = true ↔ IsTriple IsNumber text := by
  rw [isTriple_iff_parts fun _ => IsNumber.point_not_mem, isValidVersion, Bool.and_eq_true,
    beq_iff_eq, List.all_eq_true]
  simp only [isNumber_iff]
  rfl

/-- A version for a manifest is one of three numbers without a zero in front. -/
theorem isRelease_iff :
    IsRelease text ↔ IsTriple IsNumber text ∧ ∀ t ∈ parts text, ¬ HasLeadingZero t := by
  rw [IsRelease, isTriple_iff_parts fun _ h => h.toIsNumber.point_not_mem,
    isTriple_iff_parts fun _ => IsNumber.point_not_mem]
  constructor
  · rintro ⟨hlength, hparts⟩
    exact ⟨⟨hlength, fun t ht => (hparts t ht).toIsNumber⟩, fun t ht => (hparts t ht).leading⟩
  · rintro ⟨⟨hlength, hnumbers⟩, hleading⟩
    exact ⟨hlength, fun t ht => ⟨hnumbers t ht, hleading t ht⟩⟩

end Parts

/-! ## The check -/

/-- What the check answers: the name is looked at first. -/
theorem validate_cases (s : Settings) :
    (IsCrateName s.crateName ∧ IsTriple IsNumber s.crateVersion ∧ s.validate = .ok ()) ∨
    (¬ IsCrateName s.crateName ∧ s.validate = .error (.config (.crateName s.crateName))) ∨
    (IsCrateName s.crateName ∧ ¬ IsTriple IsNumber s.crateVersion ∧
      s.validate = .error (.config (.crateVersion s.crateVersion))) := by
  rw [← isValidName_iff, ← isValidVersion_iff, validate]
  cases isValidName s.crateName <;> cases isValidVersion s.crateVersion <;> simp

theorem validate_eq_ok_iff (s : Settings) :
    s.validate = .ok () ↔ IsCrateName s.crateName ∧ IsTriple IsNumber s.crateVersion := by
  rcases validate_cases s with ⟨hname, hversion, h⟩ | ⟨hname, h⟩ | ⟨-, hversion, h⟩
  · exact ⟨fun _ => ⟨hname, hversion⟩, fun _ => h⟩
  · rw [h]
    exact ⟨nofun, fun hboth => absurd hboth.1 hname⟩
  · rw [h]
    exact ⟨nofun, fun hboth => absurd hboth.2 hversion⟩

/-- Settings are accepted exactly if their name is one for a crate and their version is three
numbers; accepted settings whose numbers have no zero in front are exactly those with a name for a
crate and a version for a manifest. -/
theorem validate_ok_iff_release (s : Settings) :
    (s.validate = .ok () ↔ IsCrateName s.crateName ∧ IsTriple IsNumber s.crateVersion) ∧
    ((s.validate = .ok () ∧ ∀ t ∈ parts s.crateVersion, ¬ HasLeadingZero t) ↔
      IsCrateName s.crateName ∧ IsRelease s.crateVersion) :=
  ⟨validate_eq_ok_iff s, by rw [validate_eq_ok_iff, isRelease_iff, and_assoc]⟩

/-- The check accepts a version that is none for a manifest. -/
theorem not_isRelease_padded :
    validate ⟨⟨"a", "Store"⟩, "x", "01.0.0", none⟩ = .ok () ∧ ¬ IsRelease "01.0.0" := by
  refine ⟨by decide, fun h => ?_⟩
  have hpart : ['0', '1'] ∈ parts "01.0.0" := by decide
  exact (isRelease_iff.1 h).2 _ hpart ⟨'1', [], rfl⟩

end ClientGen.Settings
