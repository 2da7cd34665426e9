import ClientGen.Protocol.Uri
import Mathlib.Data.List.Chain
import Mathlib.Data.List.TakeWhile

/-!
# Path templates and their segments

A template is read as the one list of segments that is written as the template: literals without an
opening brace between which labels stand, and labels up to the next closing brace. It is refused
exactly where a scan from the left meets a brace that is not closed, or a label without a name.
-/

namespace ClientGen

namespace UriSegment

/-! ## Splitting at a character -/

section Split

variable {c : Char} {s before after : List Char}

theorem takeWhile_ne (h : c ∉ before) : (before ++ c :: after).takeWhile (· ≠ c) = before := by
  have hpos : ∀ x ∈ before, decide (x ≠ c) = true := fun x hx =>
    decide_eq_true (ne_of_mem_of_not_mem hx h)
  rw [List.takeWhile_append_of_pos hpos, List.takeWhile_cons_of_neg (by simp), List.append_nil]

theorem dropWhile_ne (h : c ∉ before) : (before ++ c :: after).dropWhile (· ≠ c) = c :: after := by
  have hpos : ∀ x ∈ before, decide (x ≠ c) = true := fun x hx =>
    decide_eq_true (ne_of_mem_of_not_mem hx h)
  rw [List.dropWhile_append_of_pos hpos, List.dropWhile_cons_of_neg (by simp)]

theorem dropWhile_ne_of_not_mem (h : c ∉ s) : s.dropWhile (· ≠ c) = [] :=
  List.dropWhile_eq_nil_iff.2 fun _ hx => decide_eq_true (ne_of_mem_of_not_mem hx h)

end Split

/-! ## The three forms of a template -/

/-- A template has no opening brace, or its first one is not closed, or this opens a label behind
which a template stands. -/
theorem template_induction {P : List Char → Prop} (plain : ∀ s, '\x7b' ∉ s → P s)
    (unclosed : ∀ pre inner, '\x7b' ∉ pre → '\x7d' ∉ inner → P (pre ++ '\x7b' :: inner))
    (label : ∀ pre text rest, '\x7b' ∉ pre → '\x7d' ∉ text → P rest →
      P (pre ++ '\x7b' :: (text ++ '\x7d' :: rest)))
    (s : List Char) : P s := by
  by_cases hopen : '\x7b' ∈ s
  · obtain ⟨pre, inner, rfl, hpre⟩ := List.eq_append_cons_of_mem hopen
    by_cases hclose : '\x7d' ∈ inner
    · obtain ⟨text, rest, rfl, htext⟩ := List.eq_append_cons_of_mem hclose
      exact label pre text rest hpre htext (template_induction plain unclosed label rest)
    · exact unclosed pre inner hpre hclose
  · exact plain s hopen
termination_by s.length
decreasing_by
  simp_all
  omega

variable {s pre inner text rest name : List Char} {greedy : Bool}

theorem ofTemplate_plain (h : '\x7b' ∉ s) : ofTemplate s = .ok (literals s) := by
  rw [ofTemplate]
  split
  · rfl
  · rename_i hs
    rw [dropWhile_ne_of_not_mem h] at hs
    cases hs

theorem ofTemplate_unclosed (hpre : '\x7b' ∉ pre) (hinner : '\x7d' ∉ inner) :
    ofTemplate (pre ++ '\x7b' :: inner) = .error .unterminated := by
  rw [ofTemplate]
  split
  · rename_i hs
    rw [dropWhile_ne hpre] at hs
    cases hs
  · rename_i hs
    rw [dropWhile_ne hpre] at hs
    cases hs
    split
    · rfl
    · rename_i hi
      rw [dropWhile_ne_of_not_mem hinner] at hi
      cases hi

theorem ofTemplate_label (hpre : '\x7b' ∉ pre) (htext : '\x7d' ∉ text) :
    ofTemplate (pre ++ '\x7b' :: (text ++ '\x7d' :: rest)) =
      if (ofLabel text).name.isEmpty then .error .nameless
      else (ofTemplate rest).map (literals pre ++ ofLabel text :: ·) := by
  rw [ofTemplate]
  split
  · rename_i hs
    rw [dropWhile_ne hpre] at hs
    cases hs
  · rename_i hs
    rw [dropWhile_ne hpre] at hs
    cases hs
    split
    · rename_i hi
      rw [dropWhile_ne htext] at hi
      cases hi
    · rename_i hi
      rw [dropWhile_ne htext] at hi
      cases hi
      rw [takeWhile_ne htext, takeWhile_ne hpre]
      dsimp only
      by_cases hempty : (ofLabel text).name.isEmpty = true
      · rw [if_pos hempty, if_pos hempty]
      · rw [if_neg hempty, if_neg hempty]
        cases ofTemplate rest <;> rfl

theorem ofTemplate_label_ok {segments : List UriSegment} (hpre : '\x7b' ∉ pre)
    (htext : '\x7d' ∉ text) :
    ofTemplate (pre ++ '\x7b' :: (text ++ '\x7d' :: rest)) = .ok segments ↔
      (ofLabel text).name ≠ [] ∧ ∃ others, ofTemplate rest = .ok others ∧
        segments = literals pre ++ ofLabel text :: others := by
  rw [ofTemplate_label hpre htext]
  by_cases hempty : (ofLabel text).name = []
  · simp [hempty]
  · rw [if_neg (by simpa using hempty)]
    cases ofTemplate rest <;> simp [Except.map, hempty, eq_comm]

theorem ofTemplate_label_error {fault : Fault} (hpre : '\x7b' ∉ pre) (htext : '\x7d' ∉ text) :
    ofTemplate (pre ++ '\x7b' :: (text ++ '\x7d' :: rest)) = .error fault ↔
      if (ofLabel text).name = [] then fault = .nameless else ofTemplate rest = .error fault := by
  rw [ofTemplate_label hpre htext]
  by_cases hempty : (ofLabel text).name = []
  · simp [hempty, eq_comm]
  · rw [if_neg (by simpa using hempty), if_neg hempty]
    cases ofTemplate rest <;> simp [Except.map]

/-! ## Labels -/

def labelText (name : List Char) (greedy : Bool) : List Char :=
  if greedy then name ++ ['+'] else name

/-- The text of a segment in a template. -/
def source : UriSegment → List Char
  | literal text => text
  | label name greedy => '\x7b' :: (labelText name greedy ++ ['\x7d'])

/-- What a segment of a template is like: a literal is not empty and opens no label; a label has a
name, which does not close it, and which ends in a plus sign only if another one follows. -/
def IsProper : UriSegment → Prop
  | literal text => text ≠ [] ∧ '\x7b' ∉ text
  | label name greedy => name ≠ [] ∧ '\x7d' ∉ name ∧ (greedy = false → name.getLast? ≠ some '+')

def isLiteral : UriSegment → Bool
  | literal _ => true
  | label .. => false

/-- Not both are literals, which would be one. -/
def Apart (a b : UriSegment) : Prop := ¬ (a.isLiteral = true ∧ b.isLiteral = true)

theorem literals_of_ne_nil (h : text ≠ []) : literals text = [literal text] :=
  if_neg (by simpa using h)

theorem ofLabel_labelText (h : greedy = false → name.getLast? ≠ some '+') :
    ofLabel (labelText name greedy) = label name greedy := by
  cases greedy with
  | true => simp [labelText, ofLabel]
  | false => simp [labelText, ofLabel, h rfl]

theorem not_mem_labelText (h : '\x7d' ∉ name) : '\x7d' ∉ labelText name greedy := by
  cases greedy <;> simp [labelText, h]

/-- Every text is that of one label. -/
theorem exists_labelText (text : List Char) :
    ∃ name greedy, text = labelText name greedy ∧ (greedy = false → name.getLast? ≠ some '+') := by
  by_cases hplus : text.getLast? = some '+'
  · obtain ⟨name, rfl⟩ := List.getLast?_eq_some_iff.1 hplus
    exact ⟨name, true, rfl, by simp⟩
  · exact ⟨text, false, rfl, fun _ => hplus⟩

theorem name_ofLabel_eq_nil : (ofLabel text).name = [] ↔ text = [] ∨ text = ['+'] := by
  obtain ⟨name, greedy, rfl, hname⟩ := exists_labelText text
  rw [ofLabel_labelText hname]
  change name = [] ↔ _
  cases greedy with
  | true => simp [labelText]
  | false =>
    have hplus : name ≠ ['+'] := by
      rintro rfl
      exact hname rfl rfl
    simp [labelText, hplus]

/-! ## Reading and writing -/

/-- Segments that are written as the template, each as it should be, no two literals together. -/
structure IsDecomposition (s : List Char) (segments : List UriSegment) : Prop where
  written : segments.flatMap source = s
  proper : ∀ l ∈ segments, l.IsProper
  apart : segments.IsChain Apart

theorem isDecomposition_literals (h : '\x7b' ∉ s) : IsDecomposition s (literals s) := by
  cases s with
  | nil => exact ⟨rfl, by simp [literals], .nil⟩
  | cons c s =>
    refine ⟨by simp [literals, source], fun l hl => ?_, .singleton _⟩
    obtain rfl : l = literal (c :: s) := by simpa [literals] using hl
    exact ⟨List.cons_ne_nil c s, h⟩

theorem isChain_label {segments : List UriSegment} (h : segments.IsChain Apart) :
    (label name greedy :: segments).IsChain Apart := by
  cases segments with
  | nil => exact .singleton _
  | cons l segments => exact List.isChain_cons_cons.2 ⟨by simp [Apart, isLiteral], h⟩

/-- A literal, if there is one, and a label come before the segments of the rest. -/
theorem IsDecomposition.label {segments : List UriSegment} (h : IsDecomposition rest segments)
    (hpre : '\x7b' ∉ pre) (hlabel : (UriSegment.label name greedy).IsProper) :
    IsDecomposition (pre ++ '\x7b' :: (labelText name greedy ++ '\x7d' :: rest))
      (literals pre ++ .label name greedy :: segments) := by
  have hliterals := isDecomposition_literals hpre
  refine ⟨?_, fun l hl => ?_, ?_⟩
  · rw [List.flatMap_append, hliterals.written, List.flatMap_cons, h.written]
    simp [source]
  · rcases List.mem_append.1 hl with hl | hl
    · exact hliterals.proper l hl
    · rcases List.mem_cons.1 hl with rfl | hl
      · exact hlabel
      · exact h.proper l hl
  · cases pre with
    | nil => exact isChain_label h.apart
    | cons c pre =>
      exact List.isChain_cons_cons.2 ⟨by simp [Apart, isLiteral], isChain_label h.apart⟩

/-- Segments that are read are written as the template was, each as it should be. -/
theorem isDecomposition_of_ok (s : List Char) :
    ∀ segments, ofTemplate s = .ok segments → IsDecomposition s segments := by
  induction s using template_induction with
  | plain s hs =>
    intro segments h
    rw [ofTemplate_plain hs] at h
    cases h
    exact isDecomposition_literals hs
  | unclosed pre inner hpre hinner =>
    intro segments h
    rw [ofTemplate_unclosed hpre hinner] at h
    cases h
  | label pre text rest hpre htext ih =>
    intro segments h
    obtain ⟨hname, others, hrest, rfl⟩ := (ofTemplate_label_ok hpre htext).1 h
    obtain ⟨name, greedy, rfl, hplus⟩ := exists_labelText text
    rw [ofLabel_labelText hplus] at hname ⊢
    have hclose : '\x7d' ∉ name := by
      intro hmem
      exact htext (by cases greedy <;> simp [labelText, hmem])
    exact (ih others hrest).label hpre ⟨hname, hclose, hplus⟩

theorem ofTemplate_append_label {segments : List UriSegment} (hpre : '\x7b' ∉ pre)
    (hlabel : (label name greedy).IsProper) (hrest : ofTemplate rest = .ok segments) :
    ofTemplate (pre ++ ((label name greedy).source ++ rest)) =
      .ok (literals pre ++ label name greedy :: segments) := by
  obtain ⟨hname, hclose, hplus⟩ := hlabel
  have hsource : (label name greedy).source ++ rest =
      '\x7b' :: (labelText name greedy ++ '\x7d' :: rest) := by
    simp [source]
  rw [hsource, ofTemplate_label_ok hpre (not_mem_labelText hclose), ofLabel_labelText hplus]
  exact ⟨hname, segments, hrest, rfl⟩

/-- What is written is read back. -/
theorem ofTemplate_source : ∀ segments : List UriSegment, (∀ l ∈ segments, l.IsProper) →
    segments.IsChain Apart → ofTemplate (segments.flatMap source) = .ok segments
  | [], _, _ => ofTemplate_plain (s := []) List.not_mem_nil
  | [literal text], hproper, _ => by
    obtain ⟨htext, hopen⟩ := hproper (literal text) List.mem_cons_self
    have hone : [literal text].flatMap source = text := by simp [source]
    rw [hone, ofTemplate_plain hopen, literals_of_ne_nil htext]
  | literal text :: label name greedy :: segments, hproper, hchain => by
    obtain ⟨htext, hopen⟩ := hproper (literal text) List.mem_cons_self
    have hlabel := hproper (label name greedy) (by simp)
    have ih := ofTemplate_source segments (fun l hl => hproper l (by simp [hl]))
      (List.isChain_cons_cons.1 hchain).2.tail
    have h := ofTemplate_append_label hopen hlabel ih
    rwa [literals_of_ne_nil htext] at h
  | literal _ :: literal _ :: _, _, hchain =>
    absurd ⟨rfl, rfl⟩ (List.isChain_cons_cons.1 hchain).1
  | label name greedy :: segments, hproper, hchain => by
    have hlabel := hproper (label name greedy) List.mem_cons_self
    have ih := ofTemplate_source segments (fun l hl => hproper l (by simp [hl])) hchain.tail
    exact ofTemplate_append_label List.not_mem_nil hlabel ih

/-! ## Scanning -/

/-- A scan from the left gets to the rest of a template: it passes characters other than an opening
brace one by one, and a label up to its first closing brace. -/
inductive Scans : List Char → List Char → Prop
  | here (s : List Char) : Scans s s
  | char {c : Char} {s rest : List Char} (hc : c ≠ '\x7b') (h : Scans s rest) : Scans (c :: s) rest
  | label {text s rest : List Char} (htext : '\x7d' ∉ text) (h : Scans s rest) :
      Scans ('\x7b' :: (text ++ '\x7d' :: s)) rest

/-- What is wrong with a label, by the text behind its opening brace: this has no closing brace, or
one at once or behind a plus sign. -/
def Fault.IsBehind : Fault → List Char → Prop
  | unterminated, rest => '\x7d' ∉ rest
  | nameless, rest => ∃ after, rest = '\x7d' :: after ∨ rest = '+' :: '\x7d' :: after

/-- A scan of the template meets an opening brace behind which the fault is. -/
def Meets (s : List Char) (fault : Fault) : Prop :=
  ∃ rest, Scans s ('\x7b' :: rest) ∧ fault.IsBehind rest

variable {fault : Fault}

theorem Scans.append (h : Scans s rest) (hpre : '\x7b' ∉ pre) : Scans (pre ++ s) rest := by
  induction pre with
  | nil => exact h
  | cons c pre ih =>
    obtain ⟨hc, hpre⟩ : '\x7b' ≠ c ∧ '\x7b' ∉ pre := by simpa using hpre
    exact .char (Ne.symm hc) (ih hpre)

/-- A fault that is reported is one that the scan meets. The induction is on the labels of the
template. -/
theorem meets_of_error (s : List Char) : ofTemplate s = .error fault → Meets s fault := by
  induction s using template_induction with
  | plain s hs =>
    intro h
    rw [ofTemplate_plain hs] at h
    cases h
  | unclosed pre inner hpre hinner =>
    intro h
    rw [ofTemplate_unclosed hpre hinner] at h
    cases h
    exact ⟨inner, (Scans.here _).append hpre, hinner⟩
  | label pre text rest hpre htext ih =>
    intro h
    rw [ofTemplate_label_error hpre htext] at h
    split at h
    · rename_i hempty
      subst h
      refine ⟨_, (Scans.here _).append hpre, rest, ?_⟩
      rcases name_ofLabel_eq_nil.1 hempty with rfl | rfl
      · exact .inl rfl
      · exact .inr rfl
    · obtain ⟨behind, hscan, hfault⟩ := ih h
      exact ⟨behind, (Scans.label htext hscan).append hpre, hfault⟩

theorem error_of_isBehind (h : fault.IsBehind rest) :
    ofTemplate ('\x7b' :: rest) = .error fault := by
  cases fault with
  | unterminated => exact @ofTemplate_unclosed [] rest List.not_mem_nil h
  | nameless =>
    obtain ⟨after, rfl | rfl⟩ := h
    · exact (@ofTemplate_label [] [] after List.not_mem_nil List.not_mem_nil).trans (if_pos rfl)
    · exact (@ofTemplate_label [] ['+'] after List.not_mem_nil (by decide)).trans (if_pos rfl)

/-- A character before a template mends no fault of it. -/
theorem error_cons {c : Char} (hc : c ≠ '\x7b') (h : ofTemplate s = .error fault) :
    ofTemplate (c :: s) = .error fault := by
  have hcons : ∀ pre : List Char, '\x7b' ∉ pre → '\x7b' ∉ c :: pre := by
    intro pre hpre
    simp [hpre, Ne.symm hc]
  induction s using template_induction with
  | plain s hs =>
    rw [ofTemplate_plain hs] at h
    cases h
  | unclosed pre inner hpre hinner =>
    rw [ofTemplate_unclosed hpre hinner] at h
    rw [← List.cons_append, ofTemplate_unclosed (hcons pre hpre) hinner, h]
  | label pre text rest hpre htext _ =>
    rw [← List.cons_append, ofTemplate_label_error (hcons pre hpre) htext]
    exact (ofTemplate_label_error hpre htext).1 h

/-- A fault that a scan gets to is reported, unless it has passed a label without a name, which is
reported then. -/
theorem Scans.exists_error (h : Scans s rest) (hrest : ofTemplate rest = .error fault) :
    ∃ fault, ofTemplate s = .error fault := by
  induction h with
  | here => exact ⟨fault, hrest⟩
  | char hc _ ih =>
    obtain ⟨fault, hfault⟩ := ih hrest
    exact ⟨fault, error_cons hc hfault⟩
  | @label text s rest htext _ ih =>
    obtain ⟨fault, hfault⟩ := ih hrest
    rw [← List.nil_append (_ :: _)]
    simp only [ofTemplate_label_error List.not_mem_nil htext]
    split
    · exact ⟨_, rfl⟩
    · exact ⟨fault, hfault⟩

/-! ## Templates -/

/-- A template is refused exactly if a scan from the left meets an opening brace that is not closed
or a label without a name, and the fault that is reported is one that the scan meets. It is read as
segments exactly if these are written as the template, the literals and labels are as they should
be, and no two literals stand together: so there are no other such segments. -/
theorem ofTemplate_iff (s : List Char) :
    ((∃ fault, ofTemplate s = .error fault) ↔ ∃ fault, Meets s fault) ∧
    (∀ fault, ofTemplate s = .error fault → Meets s fault) ∧
    ∀ segments, ofTemplate s = .ok segments ↔ IsDecomposition s segments := by
  refine ⟨⟨?_, ?_⟩, fun _ => meets_of_error s, fun segments =>
    ⟨isDecomposition_of_ok s segments, ?_⟩⟩
  · rintro ⟨fault, h⟩
    exact ⟨fault, meets_of_error s h⟩
  · rintro ⟨fault, rest, hscan, hfault⟩
    exact hscan.exists_error (error_of_isBehind hfault)
  · rintro ⟨rfl, hproper, hchain⟩
    exact ofTemplate_source segments hproper hchain

end UriSegment

end ClientGen
