import ClientGen.Proofs.Naming.SnakeCase
import ClientGen.Syntax.Reader

/-!
# Names as identifiers

A field is named in snake case and a type in Pascal case. Out of letters, digits and separators both
conversions make the characters of an identifier. It need not be one: the list of keywords lacks ten
words that the language of the generated code reserves, and a field may get the name of one of them;
and a digit in front is escaped in the name of a field, but not in that of a type.
-/

namespace ClientGen.Naming

open Unicode Syntax

/-! ## Identifiers -/

/-- A letter or an underscore, with letters, digits and underscores behind it. -/
inductive IsWord : List Char → Prop
  | intro {c : Char} {rest : List Char} :
    isWordStart c = true → (∀ d ∈ rest, isWordContinue d = true) → IsWord (c :: rest)

instance : DecidablePred IsWord
  | [] => isFalse nofun
  | c :: rest => decidable_of_iff (isWordStart c = true ∧ rest.all isWordContinue = true)
    ⟨fun ⟨hstart, hrest⟩ => .intro hstart (List.all_eq_true.1 hrest),
      fun ⟨hstart, hrest⟩ => ⟨hstart, List.all_eq_true.2 hrest⟩⟩

/-- The text is an identifier: a word that is no keyword, whether in use or reserved. -/
structure IsIdentifier (text : String) : Prop where
  word : IsWord text.toList
  name : isName text = true

instance (text : String) : Decidable (IsIdentifier text) :=
  decidable_of_iff (IsWord text.toList ∧ isName text = true)
    ⟨fun ⟨hword, hname⟩ => ⟨hword, hname⟩, fun h => ⟨h.word, h.name⟩⟩

/-- The text can name a field: an identifier as it is, or a raw one of a word that can be raw. -/
inductive IsFieldIdentifier (text : String) : Prop
  | plain : IsIdentifier text → IsFieldIdentifier text
  | raw (word : String) :
    text = "r#" ++ word → IsWord word.toList → word ∉ neverRaw → IsFieldIdentifier text

variable {name text more : String} {word rest : List Char} {c : Char}

theorem isName_iff : isName text = true ↔ text ∉ reservedWords := by
  simp [isName]

theorem isWordContinue_of_isAlphanum (h : c.isAlphanum = true) : isWordContinue c = true := by
  simp [isWordContinue, toNat_lt_of_isAlphanum h, h]

theorem isWordStart_iff_isAlpha (h : c.isAlphanum = true) :
    isWordStart c = true ↔ c.isAlpha = true := by
  have hlow : c ≠ '_' := by
    rintro rfl
    cases h
  simp [isWordStart, toNat_lt_of_isAlphanum h, hlow]

/-- The text starts with a letter or digit, and what follows can stand behind the start of an
identifier. -/
structure IsStem (text : String) (c : Char) (rest : List Char) : Prop where
  eq : text.toList = c :: rest
  first : c.isAlphanum = true
  rest : ∀ d ∈ rest, isWordContinue d = true

namespace IsStem

theorem ne_low (h : IsStem text c rest) : text ≠ "_" := by
  rintro rfl
  obtain ⟨rfl, -⟩ := List.cons.inj h.eq
  cases h.first

/-- All that may keep it from being a word is a digit in front. -/
theorem isWord_iff (h : IsStem text c rest) : IsWord text.toList ↔ c.isAlpha = true := by
  rw [h.eq, ← isWordStart_iff_isAlpha h.first]
  constructor
  · rintro ⟨hstart, -⟩
    exact hstart
  · exact fun hstart => .intro hstart h.rest

theorem append (h : IsStem text c rest) (hmore : more.toList.all isWordContinue = true) :
    IsStem (text ++ more) c (rest ++ more.toList) where
  eq := by rw [String.toList_append, h.eq, List.cons_append]
  first := h.first
  rest := List.forall_mem_append.2 ⟨h.rest, List.all_eq_true.1 hmore⟩

theorem forall_mem (h : IsStem text c rest) : ∀ d ∈ text.toList, isWordContinue d = true := by
  rw [h.eq]
  exact List.forall_mem_cons.2 ⟨isWordContinue_of_isAlphanum h.first, h.rest⟩

theorem isAlpha_of_isKeyword (h : IsStem text c rest) (hkeyword : isKeyword text = true) :
    c.isAlpha = true := by
  have hkeywords : ∀ w ∈ keywords, w.toList.head?.all Char.isAlpha = true := by
    decide +kernel
  have hhead := hkeywords text (by simpa [isKeyword] using hkeyword)
  rwa [h.eq] at hhead

end IsStem

/-! ## Escapes -/

/-- The words that are reserved in the language of the generated code and are not in the list of
keywords. -/
def unescapedWords : List String :=
  ["abstract", "become", "do", "final", "macro", "override", "priv", "typeof", "unsized", "virtual"]

theorem mem_unescapedWords : ∀ w ∈ reservedWords, w ≠ "_" → isKeyword w = false →
    w ∈ unescapedWords := by
  decide +kernel

/-- Such a word is not escaped. -/
theorem not_isFieldIdentifier : ∀ w ∈ unescapedWords, ¬ IsFieldIdentifier (escapeKeyword w) := by
  have hfacts : ∀ w ∈ unescapedWords, escapeKeyword w = w ∧ isName w = false ∧
      ¬ ['r', '#'] <+: w.toList := by decide +kernel
  intro w hw hfield
  obtain ⟨hsame, hname, hraw⟩ := hfacts w hw
  rw [hsame] at hfield
  cases hfield with
  | plain h => exact absurd h.name (by simp [hname])
  | raw word heq => exact hraw ⟨word.toList, by rw [heq, String.toList_append]; rfl⟩

namespace IsStem

/-- With an underscore in front, no text of this kind is reserved. -/
theorem isIdentifier_low (h : IsStem text c rest) : IsIdentifier ("_" ++ text) := by
  have hreserved : ∀ w ∈ reservedWords, w.toList.head? = some '_' → w.toList = ['_'] := by
    decide +kernel
  have htext : ("_" ++ text).toList = '_' :: text.toList := String.toList_append
  refine ⟨htext ▸ .intro (by decide) h.forall_mem, isName_iff.2 fun hmem => ?_⟩
  have hsingle := hreserved _ hmem (by rw [htext]; rfl)
  rw [htext, h.eq] at hsingle
  cases hsingle

/-- Once it is escaped, the text can name a field, unless it is one of the words that are not. -/
theorem isFieldIdentifier (h : IsStem text c rest) (hescaped : text ∉ unescapedWords) :
    IsFieldIdentifier (escapeKeyword text) := by
  -- A keyword of a path gets an underscore behind it, any other keyword is raw, and a digit gets an
  -- underscore in front; what is left is one of the words that are not escaped, or an identifier.
  unfold escapeKeyword
  split_ifs with hpath hkeyword hdigit
  · have hpaths : ∀ w ∈ pathKeywords, isKeyword w = true ∧ isName (w ++ "_") = true := by
      decide +kernel
    obtain ⟨hkeyword, hname⟩ := hpaths text (by simpa using hpath)
    exact .plain ⟨(h.append (by decide)).isWord_iff.2 (h.isAlpha_of_isKeyword hkeyword), hname⟩
  · have hnever : ∀ w ∈ neverRaw, w = "_" ∨ pathKeywords.contains w = true := by decide
    exact .raw text rfl (h.isWord_iff.2 (h.isAlpha_of_isKeyword hkeyword)) fun hmem =>
      (hnever text hmem).elim h.ne_low hpath
  · exact .plain h.isIdentifier_low
  · have hletter : c.isAlpha = true := by
      rw [startsWithDigit, h.eq, List.head?_cons, Option.any_some, isAsciiDigit_eq h.first] at hdigit
      simpa using hdigit
    refine .plain ⟨h.isWord_iff.2 hletter, isName_iff.2 fun hmem => hescaped ?_⟩
    exact mem_unescapedWords text hmem h.ne_low (Bool.eq_false_iff.2 hkeyword)

end IsStem

/-! ## Names of letters, digits and separators -/

/-- The name is made of letters, digits and separators, and not of separators alone. -/
structure IsPlain (name : String) : Prop where
  made : ∀ c ∈ name.toList, c.isAlphanum = true ∨ isSeparator c = true
  solid : ∃ c ∈ name.toList, c.isAlphanum = true

instance (name : String) : Decidable (IsPlain name) :=
  decidable_of_iff (name.toList.all (fun c => c.isAlphanum || isSeparator c) = true ∧
      name.toList.any Char.isAlphanum = true)
    ⟨fun ⟨hall, hany⟩ => ⟨by simpa using hall, List.any_eq_true.1 hany⟩,
      fun h => ⟨by simpa using h.made, List.any_eq_true.2 h.solid⟩⟩

namespace IsPlain

theorem isAscii (h : IsPlain name) : IsAscii name.toList := fun c hc =>
  (h.made c hc).elim toNat_lt_of_isAlphanum fun hsep => (ascii_of_isSeparator hsep).1

theorem not_isSeparator_eq (h : IsPlain name) (hc : c ∈ name.toList) :
    (!isSeparator c) = c.isAlphanum := by
  cases hsep : isSeparator c with
  | true => exact (ascii_of_isSeparator hsep).2.symm
  | false => exact ((h.made c hc).resolve_right (by simp [hsep])).symm

theorem isAlphanum (h : IsPlain name) (hword : word ∈ splitWords name) (hc : c ∈ word) :
    c.isAlphanum = true := by
  obtain ⟨hmem, hinner⟩ := of_mem_splitWords hword hc
  rw [← h.not_isSeparator_eq hmem, hinner]
  rfl

/-- The first word starts with the first letter or digit. -/
theorem exists_splitWords (h : IsPlain name) :
    ∃ c rest more, splitWords name = (c :: rest) :: more ∧
      name.toList.find? Char.isAlphanum = some c := by
  have hne : splitWords name ≠ [] := by
    obtain ⟨c, hc, halnum⟩ := h.solid
    exact splitWords_ne_nil ⟨c, hc, by simpa [halnum] using h.not_isSeparator_eq hc⟩
  obtain ⟨first, more, hwords⟩ := List.exists_cons_of_ne_nil hne
  obtain ⟨c, rest, rfl⟩ := List.exists_cons_of_ne_nil
    (ne_nil_of_mem_splitWords (hwords ▸ List.mem_cons_self))
  refine ⟨c, rest, more, hwords, ?_⟩
  have hflatten := flatten_splitWords name
  rw [List.filter_congr fun _ => h.not_isSeparator_eq, hwords] at hflatten
  rw [← List.head?_filter, ← hflatten]
  rfl

theorem isAlphanum_of_mem_lowercase (h : IsPlain name) (hword : word ∈ splitWords name)
    (hrest : ∀ d ∈ rest, d ∈ word) (hc : c ∈ lowercase rest) : c.isAlphanum = true := by
  have hascii : IsAscii rest := fun d hd => isAscii_of_mem_splitWords h.isAscii hword d (hrest d hd)
  rw [lowercase_ascii hascii] at hc
  obtain ⟨b, hb, rfl⟩ := List.mem_map.1 hc
  exact (isAlphanum_toLower (hascii b hb)).trans (h.isAlphanum hword (hrest b hb))

theorem of_mem_snakeCase (h : IsPlain name) (hc : c ∈ (snakeCase name).toList) :
    c = '_' ∨ c.isAlphanum = true :=
  (mem_snakeCase hc).imp_right fun ⟨_, hw, hc⟩ =>
    h.isAlphanum_of_mem_lowercase hw (fun _ => id) hc

theorem exists_isStem_snakeCase (h : IsPlain name) : ∃ c rest, IsStem (snakeCase name) c rest := by
  obtain ⟨_, _, _, hwords, -⟩ := h.exists_splitWords
  have hsnake := isSnake_intercalate fun _ hw => isSnakeWord_of_mem h.isAscii hw
  rw [← toList_snakeCase, hwords] at hsnake
  obtain ⟨c, rest, htext⟩ := List.exists_cons_of_ne_nil (hsnake.2 (List.cons_ne_nil _ _))
  have hmem := fun d (hd : d ∈ c :: rest) => h.of_mem_snakeCase (htext ▸ hd)
  refine ⟨c, rest, htext, (hmem c List.mem_cons_self).resolve_left ?_, fun d hd => ?_⟩
  · rintro rfl
    exact hsnake.1.leading (by rw [htext]; rfl)
  · rcases hmem d (List.mem_cons_of_mem _ hd) with rfl | halnum
    · decide
    · exact isWordContinue_of_isAlphanum halnum

theorem isAlphanum_of_mem_capitalize (h : IsPlain name) (hword : word ∈ splitWords name)
    (hc : c ∈ capitalize word) : c.isAlphanum = true := by
  cases word with
  | nil => cases hc
  | cons first rest =>
    have hfirst := h.isAlphanum hword List.mem_cons_self
    have hascii := toNat_lt_of_isAlphanum hfirst
    rw [capitalize, upperChars_ascii hascii] at hc
    rcases List.mem_cons.1 hc with rfl | hc
    · exact (isAlphanum_toUpper hascii).trans hfirst
    · exact h.isAlphanum_of_mem_lowercase hword (fun _ => List.mem_cons_of_mem _) hc

/-- The Pascal case starts with the first letter or digit, as a capital. -/
theorem exists_isStem_pascalCase (h : IsPlain name) :
    ∃ c rest, name.toList.find? Char.isAlphanum = some c ∧
      IsStem (pascalCase name) c.toUpper rest := by
  obtain ⟨c, tail, words, hwords, hfind⟩ := h.exists_splitWords
  have hfirst : c.isAlphanum = true := List.find?_some hfind
  have hascii := toNat_lt_of_isAlphanum hfirst
  have hpascal : (pascalCase name).toList =
      c.toUpper :: (lowercase tail ++ (words.map capitalize).flatten) := by
    rw [pascalCase, String.toList_ofList, hwords, List.map_cons, List.flatten_cons, capitalize,
      upperChars_ascii hascii]
    rfl
  have hmade : ∀ d ∈ (pascalCase name).toList, d.isAlphanum = true := fun d hd => by
    rw [pascalCase, String.toList_ofList] at hd
    obtain ⟨capital, hcapital, hd⟩ := List.mem_flatten.1 hd
    obtain ⟨w, hw, rfl⟩ := List.mem_map.1 hcapital
    exact h.isAlphanum_of_mem_capitalize hw hd
  rw [hpascal] at hmade
  obtain ⟨hupper, hrest⟩ := List.forall_mem_cons.1 hmade
  exact ⟨c, _, hfind, hpascal, hupper, fun d hd => isWordContinue_of_isAlphanum (hrest d hd)⟩

end IsPlain

/-! ## Names of fields -/

/-- The name of a field is an identifier, raw or not, exactly if its snake case is none of the
reserved words that are not escaped. -/
theorem isFieldIdentifier_fieldName_iff (h : IsPlain name) :
    IsFieldIdentifier (fieldName name) ↔ snakeCase name ∉ unescapedWords := by
  refine ⟨fun hfield hmem => not_isFieldIdentifier _ hmem hfield, fun hescaped => ?_⟩
  obtain ⟨c, rest, hstem⟩ := h.exists_isStem_snakeCase
  exact hstem.isFieldIdentifier hescaped

/-- A keyword that cannot be raw, between dashes. -/
theorem isFieldIdentifier_fieldName_self : IsPlain "-Self-" ∧ fieldName "-Self-" = "self_" ∧
    IsFieldIdentifier (fieldName "-Self-") := by
  have hplain : IsPlain "-Self-" := by decide
  have hsnake : snakeCase "-Self-" ∉ unescapedWords := by decide +kernel
  exact ⟨hplain, by decide +kernel, (isFieldIdentifier_fieldName_iff hplain).2 hsnake⟩

/-- A member `do` gets a field of this name, which is reserved. -/
theorem not_isFieldIdentifier_do : IsPlain "do" ∧ fieldName "do" = "do" ∧ "do" ∈ reservedWords ∧
    ¬ IsFieldIdentifier (fieldName "do") := by
  have hname : fieldName "do" = "do" := by decide +kernel
  have hsame : escapeKeyword "do" = "do" := by decide
  refine ⟨by decide, hname, by decide, ?_⟩
  rw [hname, ← hsame]
  exact not_isFieldIdentifier "do" (by decide)

/-! ## Names of types -/

/-- All words that are reserved start with a small letter, but one. -/
theorem IsStem.eq_self (h : IsStem text c.toUpper rest) (hc : c.toNat < 128)
    (hmem : text ∈ reservedWords ++ keywords) : text = "Self" := by
  have hwords : ∀ w ∈ reservedWords ++ keywords,
      w = "Self" ∨ w = "_" ∨ w.toList.head?.any Char.isLower = true := by decide +kernel
  rcases hwords text hmem with heq | hlow | hsmall
  · exact heq
  · exact absurd hlow h.ne_low
  · rw [h.eq, List.head?_cons, Option.any_some, isLower_toUpper hc] at hsmall
    cases hsmall

theorem IsPlain.exists_isStem_typeName (h : IsPlain name) :
    ∃ c rest, name.toList.find? Char.isAlphanum = some c ∧ IsStem (typeName name) c.toUpper rest ∧
      isName (typeName name) = true := by
  obtain ⟨c, rest, hfind, hstem⟩ := h.exists_isStem_pascalCase
  have hascii := toNat_lt_of_isAlphanum (List.find?_some hfind)
  unfold typeName
  dsimp only
  split_ifs with hkeyword
  · have hmem : pascalCase name ∈ keywords := by simpa [isKeyword] using hkeyword
    have hself := hstem.eq_self hascii (List.mem_append_right _ hmem)
    refine ⟨c, _, hfind, hstem.append (by decide), ?_⟩
    rw [hself]
    decide
  · refine ⟨c, rest, hfind, hstem, isName_iff.2 fun hmem => hkeyword ?_⟩
    rw [hstem.eq_self hascii (List.mem_append_left _ hmem)]
    decide

/-- The name of a type is made of what identifiers are made of and is not reserved. It is an
identifier exactly if the first letter or digit of the name is a letter. -/
theorem isIdentifier_typeName_iff (h : IsPlain name) :
    (∃ c rest, IsStem (typeName name) c rest) ∧ isName (typeName name) = true ∧
      (IsIdentifier (typeName name) ↔
        (name.toList.find? Char.isAlphanum).any Char.isAlpha = true) := by
  obtain ⟨c, rest, hfind, hstem, hname⟩ := h.exists_isStem_typeName
  have hfirst : c.isAlphanum = true := List.find?_some hfind
  refine ⟨⟨_, _, hstem⟩, hname, ?_⟩
  rw [hfind, Option.any_some, ← isAlpha_toUpper (toNat_lt_of_isAlphanum hfirst), ← hstem.isWord_iff]
  exact ⟨fun hid => hid.word, fun hword => ⟨hword, hname⟩⟩

/-- A keyword behind a dot. -/
theorem isIdentifier_typeName_self : IsPlain ".self" ∧ typeName ".self" = "SelfValue" ∧
    IsIdentifier (typeName ".self") := by
  have hplain : IsPlain ".self" := by decide
  obtain ⟨-, -, hiff⟩ := isIdentifier_typeName_iff hplain
  exact ⟨hplain, by decide +kernel, hiff.2 (by decide)⟩

/-- A type `3d` gets this name, which starts with a digit, while a field gets an underscore. -/
theorem not_isIdentifier_digit : IsPlain "3d" ∧ typeName "3d" = "3d" ∧ fieldName "3d" = "_3d" ∧
    ¬ IsIdentifier (typeName "3d") := by
  have hname : typeName "3d" = "3d" := by decide +kernel
  refine ⟨by decide, hname, by decide +kernel, ?_⟩
  rw [hname]
  decide

end ClientGen.Naming
