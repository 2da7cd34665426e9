import ClientGen.Proofs.Naming.Words
import Mathlib.Data.List.Chain

/-!
# Names in snake case

A name in snake case has no capitals, no other separator than the underscore, and underscores only
between words, one at a time. The conversion brings every ASCII name into this form, and names that
have it already are all that it leaves alone: nothing in them starts a word but an underscore.
-/

namespace ClientGen.Naming

open Unicode

/-! ## The form -/

structure IsSnake (cs : List Char) : Prop where
  small : ∀ c ∈ cs, isUppercase c = false
  separator : ∀ c ∈ cs, c ≠ '-' ∧ c ≠ ' ' ∧ c ≠ '.'
  leading : cs.head? ≠ some '_'
  trailing : cs.getLast? ≠ some '_'
  /-- No underscore follows another one. -/
  single : cs.IsChain fun a b => a = '_' → b ≠ '_'

structure IsSnakeWord (word : List Char) : Prop where
  ne_nil : word ≠ []
  small : ∀ c ∈ word, isUppercase c = false
  inner : ∀ c ∈ word, isSeparator c = false

variable {word cs : List Char} {words : List (List Char)} {name : String}

/-! ## Joined words -/

theorem isSnake_nil : IsSnake [] :=
  ⟨List.forall_mem_nil _, List.forall_mem_nil _, nofun, nofun, .nil⟩

namespace IsSnakeWord

theorem low_not_mem (h : IsSnakeWord word) : '_' ∉ word := fun hmem =>
  absurd (h.inner '_' hmem) (by decide)

theorem separator (h : IsSnakeWord word) : ∀ c ∈ word, c ≠ '-' ∧ c ≠ ' ' ∧ c ≠ '.' := by
  intro c hc
  have hinner := h.inner c hc
  simp only [isSeparator, Bool.or_eq_false_iff, beq_eq_false_iff_ne] at hinner
  obtain ⟨⟨⟨-, hdash⟩, hblank⟩, hdot⟩ := hinner
  exact ⟨hdash, hblank, hdot⟩

theorem isChain (h : IsSnakeWord word) : word.IsChain fun a b => a = '_' → b ≠ '_' := by
  refine (List.pairwise_of_forall_mem_list fun a ha b _ hlow => ?_).isChain
  exact absurd (hlow ▸ ha) h.low_not_mem

theorem isSnake (h : IsSnakeWord word) : IsSnake word where
  small := h.small
  separator := h.separator
  leading hhead := h.low_not_mem (List.mem_of_head? hhead)
  trailing hlast := h.low_not_mem (List.mem_of_getLast? hlast)
  single := h.isChain

/-- A word, an underscore and a text in snake case that goes on. -/
theorem isSnake_append (h : IsSnakeWord word) (hcs : IsSnake cs) (hne : cs ≠ []) :
    IsSnake (word ++ '_' :: cs) where
  small := List.forall_mem_append.2 ⟨h.small, List.forall_mem_cons.2 ⟨by decide, hcs.small⟩⟩
  separator := List.forall_mem_append.2
    ⟨h.separator, List.forall_mem_cons.2 ⟨by decide, hcs.separator⟩⟩
  leading := by
    rw [List.head?_append_of_ne_nil _ h.ne_nil]
    exact h.isSnake.leading
  trailing := by
    rw [List.getLast?_append_of_ne_nil _ (List.cons_ne_nil _ _), List.getLast?_cons_of_ne_nil hne]
    exact hcs.trailing
  single := by
    refine h.isChain.append (hcs.single.cons fun b hb _ hlow => ?_) fun a ha b _ hlow => ?_
    · exact hcs.leading (hlow ▸ hb)
    · exact absurd (hlow ▸ List.mem_of_getLast? ha) h.low_not_mem

end IsSnakeWord

/-- Joined words have the form, and nothing is joined to nothing only. -/
theorem isSnake_intercalate (h : ∀ w ∈ words, IsSnakeWord w) :
    IsSnake (['_'].intercalate words) ∧ (words ≠ [] → ['_'].intercalate words ≠ []) := by
  induction words with
  | nil => exact ⟨isSnake_nil, fun hne => absurd rfl hne⟩
  | cons word rest ih =>
    obtain ⟨hword, hrest⟩ := List.forall_mem_cons.1 h
    cases rest with
    | nil =>
      rw [List.intercalate_singleton]
      exact ⟨hword.isSnake, fun _ => hword.ne_nil⟩
    | cons next rest =>
      obtain ⟨hsnake, hne⟩ := ih hrest
      rw [List.intercalate_cons_cons, List.append_assoc]
      exact ⟨hword.isSnake_append hsnake (hne (List.cons_ne_nil _ _)), fun _ => by simp⟩

/-! ## The words of an ASCII name -/

theorem isSnakeWord_map_toLower (hne : word ≠ []) (hascii : IsAscii word)
    (hinner : ∀ c ∈ word, isSeparator c = false) : IsSnakeWord (word.map Char.toLower) := by
  refine ⟨mt List.map_eq_nil_iff.1 hne, ?_, ?_⟩
  · rintro _ hmem
    obtain ⟨c, hc, rfl⟩ := List.mem_map.1 hmem
    rw [isUppercase_ascii (toNat_toLower_lt (hascii c hc)), isUpper_toLower (hascii c hc)]
  · rintro _ hmem
    obtain ⟨c, hc, rfl⟩ := List.mem_map.1 hmem
    rw [Bool.eq_false_iff]
    intro hsep
    rw [toLower_eq_of_mem (hascii c hc) (isSeparator_iff.1 hsep), hinner c hc] at hsep
    cases hsep

theorem isAscii_of_mem_splitWords (h : IsAscii name.toList) (hword : word ∈ splitWords name) :
    IsAscii word :=
  fun c hc => h c (of_mem_splitWords hword hc).1

theorem lowercase_splitWords (h : IsAscii name.toList) :
    (splitWords name).map lowercase = (splitWords name).map (·.map Char.toLower) :=
  List.map_congr_left fun _ hword => lowercase_ascii (isAscii_of_mem_splitWords h hword)

theorem isSnakeWord_of_mem (h : IsAscii name.toList)
    (hword : word ∈ (splitWords name).map lowercase) : IsSnakeWord word := by
  rw [lowercase_splitWords h] at hword
  obtain ⟨w, hw, rfl⟩ := List.mem_map.1 hword
  exact isSnakeWord_map_toLower (ne_nil_of_mem_splitWords hw) (isAscii_of_mem_splitWords h hw)
    fun c hc => (of_mem_splitWords hw hc).2

/-! ## What the conversion leaves alone -/

theorem startsWord_of_small {prev c : Char} (rest : List Char) (h : isUppercase c = false) :
    startsWord prev c rest = false := by
  simp [startsWord, h]

theorem IsSnake.eq_low (h : IsSnake cs) {c : Char} (hc : c ∈ cs) (hsep : isSeparator c = true) :
    c = '_' := by
  obtain ⟨hdash, hblank, hdot⟩ := h.separator c hc
  simpa [hdash, hblank, hdot] using isSeparator_iff.1 hsep

/-- What follows an underscore has the form, and there is something. -/
theorem IsSnake.of_append (h : IsSnake (word ++ '_' :: cs)) : IsSnake cs ∧ cs ≠ [] := by
  have hne : cs ≠ [] := by
    rintro rfl
    exact h.trailing List.getLast?_concat
  have htail := h.single.right_of_append
  refine ⟨⟨fun c hc => h.small c (by simp [hc]), fun c hc => h.separator c (by simp [hc]), ?_, ?_,
    htail.tail⟩, hne⟩
  · intro hhead
    exact htail.rel_head? (Option.mem_def.2 hhead) rfl rfl
  · have hlast := h.trailing
    rwa [List.getLast?_append_of_ne_nil _ (List.cons_ne_nil _ _),
      List.getLast?_cons_of_ne_nil hne] at hlast

/-- Splitting a text in snake case, whose current word is `word`, undoes the join. -/
theorem intercalate_wordsFrom (hword : '_' ∉ word) (h : IsSnake (word.reverse ++ cs)) :
    ['_'].intercalate (wordsFrom word cs) = word.reverse ++ cs := by
  induction cs generalizing word with
  | nil =>
    cases word with
    | nil => rfl
    | cons c word => simp [wordsFrom, finishWord]
  | cons c rest ih =>
    have hsmall := h.small c (by simp)
    unfold wordsFrom
    split
    · rename_i hsep
      obtain rfl := h.eq_low (by simp) hsep
      obtain ⟨hrest, hne⟩ := h.of_append
      have hjoined : ['_'].intercalate (wordsFrom [] rest) = rest := ih List.not_mem_nil hrest
      -- Neither side of the underscore is empty, so that it stands between two words.
      obtain ⟨first, more, hwords⟩ : ∃ first more, wordsFrom [] rest = first :: more := by
        refine List.exists_cons_of_ne_nil fun hnil => hne ?_
        rw [← hjoined, hnil]
        rfl
      have hfront : finishWord word = [word.reverse] := by
        refine if_neg fun hempty => h.leading ?_
        rw [List.isEmpty_iff.1 hempty]
        rfl
      rw [hfront, List.singleton_append, hwords, List.intercalate_cons_cons, ← hwords, hjoined,
        List.append_assoc]
      rfl
    · rename_i hsep
      have hlow : '_' ≠ c := fun hc => hsep (hc ▸ rfl)
      split
      · exact ih (by simpa using hlow) h
      · rw [startsWord_of_small rest hsmall, if_neg Bool.false_ne_true, ih]
        · simp
        · exact List.not_mem_cons_of_ne_of_not_mem hlow hword
        · simpa using h

theorem map_toLower_of_small (hascii : IsAscii word) (h : ∀ c ∈ word, isUppercase c = false) :
    word.map Char.toLower = word := by
  refine (List.map_congr_left fun c hc => ?_).trans (List.map_id word)
  exact toLower_eq_self (hascii c hc) (isUppercase_ascii (hascii c hc) ▸ h c hc)

/-- An ASCII name in snake case stays as it is. -/
theorem snakeCase_eq_self (hascii : IsAscii name.toList) (h : IsSnake name.toList) :
    snakeCase name = name := by
  have hsmall : (splitWords name).map lowercase = splitWords name := by
    rw [lowercase_splitWords hascii]
    refine (List.map_congr_left fun w hw => ?_).trans (List.map_id _)
    exact map_toLower_of_small (isAscii_of_mem_splitWords hascii hw) fun c hc =>
      h.small c (of_mem_splitWords hw hc).1
  have hjoined : ['_'].intercalate (splitWords name) = name.toList :=
    intercalate_wordsFrom List.not_mem_nil h
  rw [snakeCase, hsmall, hjoined, String.ofList_toList]

/-! ## The conversion -/

theorem isSnake_snakeCase (h : IsAscii name.toList) : IsSnake (snakeCase name).toList :=
  toList_snakeCase name ▸ (isSnake_intercalate fun _ hw => isSnakeWord_of_mem h hw).1

theorem isAscii_snakeCase (h : IsAscii name.toList) : IsAscii (snakeCase name).toList := by
  intro c hc
  rcases mem_snakeCase hc with rfl | ⟨w, hw, hc⟩
  · decide
  · have hascii := isAscii_of_mem_splitWords h hw
    rw [lowercase_ascii hascii] at hc
    obtain ⟨b, hb, rfl⟩ := List.mem_map.1 hc
    exact toNat_toLower_lt (hascii b hb)

/-- The snake case of an ASCII name has the form of snake case, a second conversion changes nothing,
and the names that the conversion leaves alone are those of this form. -/
theorem snakeCase_normalizes (h : ∀ c ∈ name.toList, c.toNat < 128) :
    IsSnake (snakeCase name).toList ∧ snakeCase (snakeCase name) = snakeCase name ∧
      (snakeCase name = name ↔ IsSnake name.toList) := by
  have hsnake := isSnake_snakeCase h
  refine ⟨hsnake, snakeCase_eq_self (isAscii_snakeCase h) hsnake, fun heq => ?_,
    snakeCase_eq_self h⟩
  rw [heq] at hsnake
  exact hsnake

/-- An acronym, a digit, a dash and two underscores. -/
theorem snakeCase_normalizes_acronym :
    (∀ c ∈ "HTTPClient-v2__Id".toList, c.toNat < 128) ∧
      snakeCase "HTTPClient-v2__Id" = "http_client_v2_id" ∧
      IsSnake "http_client_v2_id".toList ∧
      snakeCase "http_client_v2_id" = "http_client_v2_id" := by
  have hall : "HTTPClient-v2__Id".toList.all (·.toNat < 128) = true := by decide
  have hascii : ∀ c ∈ "HTTPClient-v2__Id".toList, c.toNat < 128 := fun c hc =>
    of_decide_eq_true (List.all_eq_true.1 hall c hc)
  have hname : snakeCase "HTTPClient-v2__Id" = "http_client_v2_id" := by decide +kernel
  obtain ⟨hsnake, hagain, -⟩ := snakeCase_normalizes hascii
  rw [hname] at hsnake hagain
  exact ⟨hascii, hname, hsnake, hagain⟩

end ClientGen.Naming
