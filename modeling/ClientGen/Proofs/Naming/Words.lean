import ClientGen.Naming
import ClientGen.Proofs.Unicode.Ascii
import Mathlib.Data.List.Basic

/-!
# The words of a name

Splitting a name into words takes the separators out of it and changes nothing else: the words, one
behind the other, are the other characters of the name in their order, and no word is empty.
-/

namespace ClientGen.Naming

variable {name : String} {word cs w : List Char} {c : Char}

/-! ## Separators and digits -/

theorem isSeparator_iff : isSeparator c = true ↔ c ∈ ['_', '-', ' ', '.'] := by
  simp [isSeparator, or_assoc]

theorem ascii_of_isSeparator (h : isSeparator c = true) :
    c.toNat < 128 ∧ c.isAlphanum = false := by
  have hmark := isSeparator_iff.1 h
  simp only [List.mem_cons, List.not_mem_nil, or_false] at hmark
  rcases hmark with rfl | rfl | rfl | rfl <;> decide

theorem isAsciiDigit_eq (h : c.isAlphanum = true) : isAsciiDigit c = !c.isAlpha := by
  refine Unicode.forall_ascii (c := c) (Unicode.toNat_lt_of_isAlphanum h) ?_ h
  decide

/-! ## Words in their places -/

/-- The words stand in the text one behind the other, each in one piece. Around them there are
separators only, and in them there is none. -/
inductive StandIn : List (List Char) → List Char → Prop
  | nil : StandIn [] []
  | separator {words : List (List Char)} {cs : List Char} {c : Char}
      (hc : isSeparator c = true) (h : StandIn words cs) : StandIn words (c :: cs)
  | word {words : List (List Char)} {cs w : List Char} (hne : w ≠ [])
      (hinner : ∀ c ∈ w, isSeparator c = false) (h : StandIn words cs) :
      StandIn (w :: words) (w ++ cs)

namespace StandIn

variable {words : List (List Char)}

theorem ne_nil (h : StandIn words cs) : ∀ w ∈ words, w ≠ [] := by
  induction h with
  | nil => exact List.forall_mem_nil _
  | separator _ _ ih => exact ih
  | word hne _ _ ih => exact List.forall_mem_cons.2 ⟨hne, ih⟩

/-- No character is lost or moved but for the separators. -/
theorem flatten (h : StandIn words cs) : words.flatten = cs.filter (!isSeparator ·) := by
  induction h with
  | nil => rfl
  | separator hc _ ih => rw [ih, List.filter_cons_of_neg (by simp [hc])]
  | @word _ _ w _ hinner _ ih =>
    have hkept : w.filter (!isSeparator ·) = w := List.filter_eq_self.2 fun c hc => by
      simp [hinner c hc]
    rw [List.flatten_cons, ih, List.filter_append, hkept]

/-- The word that has been read, if any, stands in front of what follows it. -/
theorem finish (hword : ∀ c ∈ word, isSeparator c = false) (h : StandIn words cs) :
    StandIn (finishWord word ++ words) (word.reverse ++ cs) := by
  unfold finishWord
  split
  · rename_i hempty
    rw [List.isEmpty_iff.1 hempty]
    exact h
  · rename_i hempty
    refine .word (List.reverse_ne_nil_iff.2 (List.isEmpty_iff.not.1 hempty)) ?_ h
    exact fun c hc => hword c (List.mem_reverse.1 hc)

end StandIn

/-- Reading on keeps the words in their places: a character ends the word before it, starts a word
or goes into the word that is being read. -/
theorem standIn_wordsFrom (hword : ∀ c ∈ word, isSeparator c = false) :
    StandIn (wordsFrom word cs) (word.reverse ++ cs) := by
  induction cs generalizing word with
  | nil =>
    rw [wordsFrom, ← List.append_nil (finishWord word)]
    exact StandIn.nil.finish hword
  | cons c rest ih =>
    unfold wordsFrom
    split
    · rename_i hc
      exact (StandIn.separator hc (ih (List.forall_mem_nil _))).finish hword
    · rename_i hc
      have hc : isSeparator c = false := Bool.eq_false_iff.2 hc
      have hfirst : StandIn (wordsFrom [c] rest) (c :: rest) := ih fun d hd =>
        List.mem_singleton.1 hd ▸ hc
      split
      · exact hfirst
      · split
        · refine .word (List.reverse_ne_nil_iff.2 (List.cons_ne_nil _ _)) ?_ hfirst
          exact fun d hd => hword d (List.mem_reverse.1 hd)
        · have hmore := ih (List.forall_mem_cons.2 ⟨hc, hword⟩)
          rwa [List.reverse_cons, List.append_assoc, List.singleton_append] at hmore

/-! ## The words of a whole name -/

theorem standIn_splitWords (name : String) : StandIn (splitWords name) name.toList :=
  standIn_wordsFrom (List.forall_mem_nil _)

theorem flatten_splitWords (name : String) :
    (splitWords name).flatten = name.toList.filter (!isSeparator ·) :=
  (standIn_splitWords name).flatten

theorem ne_nil_of_mem_splitWords (h : w ∈ splitWords name) : w ≠ [] :=
  (standIn_splitWords name).ne_nil w h

/-- A character of a word is one of the name, and no separator. -/
theorem of_mem_splitWords (h : w ∈ splitWords name) (hc : c ∈ w) :
    c ∈ name.toList ∧ isSeparator c = false := by
  have hmem : c ∈ (splitWords name).flatten := List.mem_flatten.2 ⟨w, h, hc⟩
  rw [flatten_splitWords] at hmem
  simpa using hmem

theorem splitWords_ne_nil (h : ∃ c ∈ name.toList, isSeparator c = false) :
    splitWords name ≠ [] := by
  intro hnil
  obtain ⟨c, hc, hsep⟩ := h
  have hmem : c ∈ name.toList.filter (!isSeparator ·) := List.mem_filter.2 ⟨hc, by simp [hsep]⟩
  rw [← flatten_splitWords, hnil] at hmem
  exact List.not_mem_nil hmem

/-- The words of a name are not empty, and none of the four separators is in them. They stand in the
name one behind the other, each in one piece, with nothing but separators around them; so they are
together the name without its separators. -/
theorem splitWords_slices (name : String) :
    (∀ w ∈ splitWords name, w ≠ [] ∧ ∀ c ∈ w, c ∉ ['_', '-', ' ', '.']) ∧
    (splitWords name).flatten = name.toList.filter (· ∉ ['_', '-', ' ', '.']) ∧
    StandIn (splitWords name) name.toList := by
  refine ⟨fun w hw => ⟨ne_nil_of_mem_splitWords hw, fun c hc hmark => ?_⟩, ?_,
    standIn_splitWords name⟩
  · have hinner := (of_mem_splitWords hw hc).2
    rw [isSeparator_iff.2 hmark] at hinner
    cases hinner
  · rw [flatten_splitWords]
    refine List.filter_congr fun c _ => ?_
    rw [Bool.eq_iff_iff, Bool.not_eq_true', decide_eq_true_eq, ← isSeparator_iff,
      Bool.not_eq_true]

/-! ## Joined words -/

theorem mem_intercalate {α : Type} {sep : List α} {pieces : List (List α)} {a : α}
    (h : a ∈ sep.intercalate pieces) : a ∈ sep ∨ ∃ piece ∈ pieces, a ∈ piece := by
  match pieces with
  | [] => exact absurd h List.not_mem_nil
  | [piece] =>
    exact .inr ⟨piece, List.mem_singleton_self piece, by simpa [List.intercalate] using h⟩
  | piece :: next :: rest =>
    rw [List.intercalate_cons_cons] at h
    rcases List.mem_append.1 h with h | h
    · rcases List.mem_append.1 h with h | h
      · exact .inr ⟨piece, List.mem_cons_self, h⟩
      · exact .inl h
    · refine (mem_intercalate h).imp_right ?_
      rintro ⟨piece', hmem, h⟩
      exact ⟨piece', List.mem_cons_of_mem _ hmem, h⟩

theorem toList_snakeCase (name : String) :
    (snakeCase name).toList = ['_'].intercalate ((splitWords name).map Unicode.lowercase) :=
  String.toList_ofList

/-- Snake case is made of underscores and of the small forms of the words. -/
theorem mem_snakeCase (h : c ∈ (snakeCase name).toList) :
    c = '_' ∨ ∃ w ∈ splitWords name, c ∈ Unicode.lowercase w := by
  rw [toList_snakeCase] at h
  rcases mem_intercalate h with h | ⟨lower, hlower, h⟩
  · exact .inl (List.mem_singleton.1 h)
  · obtain ⟨w, hw, rfl⟩ := List.mem_map.1 hlower
    exact .inr ⟨w, hw, h⟩

end ClientGen.Naming
