import ClientGen.Code.Stmt
import ClientGen.Proofs.Code.Documentation
import ClientGen.Proofs.Code.Literals
import Mathlib.Data.List.TakeWhile

/-!
# How the lines of code start

A text without a line feed is one line. A statement that starts with some words gives a line that
starts with them behind its blanks, at any depth and however many lines the statement takes.
-/

namespace ClientGen

namespace Text

variable {start line rest : String}

/-! ## Texts of one line -/

def IsSingleLine (s : String) : Prop := '\n' ∉ s.toList

theorem linesFrom_singleLine (line cs : List Char) (h : '\n' ∉ cs) :
    linesFrom line cs = if line.isEmpty && cs.isEmpty then [] else [line.reverse ++ cs] := by
  induction cs generalizing line with
  | nil => cases line <;> simp [linesFrom]
  | cons c cs ih =>
    obtain ⟨hc, hcs⟩ : '\n' ≠ c ∧ '\n' ∉ cs := by simpa using h
    rw [linesFrom.eq_3 _ _ _ (fun heq => hc heq.symm), ih (c :: line) hcs]
    simp

theorem lines_singleLine {s : String} (h : IsSingleLine s) (hne : s.toList ≠ []) :
    lines s = [s] := by
  rw [lines, linesFrom_singleLine [] _ h]
  simp [hne]

/-! ## Starts -/

/-- Behind its blanks, the line starts with the text. -/
def Opens (start line : String) : Prop := start.toList <+: trim line.toList

/-- The text has no blank at its ends, and no line feed. -/
structure IsStart (start : String) : Prop where
  head : ∃ c, start.toList.head? = some c ∧ isBlank c = false
  last : ∃ c, start.toList.getLast? = some c ∧ isBlank c = false
  line : IsSingleLine start

theorem trimEnd_prefix_self (cs : List Char) : trimEnd cs <+: cs :=
  List.reverse_suffix.1 (by simpa [trimEnd] using List.dropWhile_suffix isBlank)

/-- Nothing is left out before a character that is not blank. -/
theorem prefix_trimEnd {c : Char} (hc : isBlank c = false) (front rest : List Char) :
    front ++ [c] <+: trimEnd (front ++ c :: rest) := by
  rw [trimEnd, List.reverse_append, List.reverse_cons, List.append_assoc, List.dropWhile_append]
  split
  · simp [hc]
  · simp [List.reverse_append]

theorem trim_cons {c : Char} (hc : isBlank c = false) (cs : List Char) :
    trim (c :: cs) = trimEnd (c :: cs) := by
  rw [trim, List.dropWhile_cons_of_neg (by simp [hc])]

theorem IsStart.opens (h : IsStart start) (hline : start.toList <+: line.toList) :
    Opens start line := by
  obtain ⟨rest, hrest⟩ := hline
  obtain ⟨c, hhead, hc⟩ := h.head
  obtain ⟨d, hlast, hd⟩ := h.last
  obtain ⟨front, hfront⟩ := List.getLast?_eq_some_iff.1 hlast
  obtain ⟨tail, htail⟩ := List.head?_eq_some_iff.1 hhead
  have hblank : line.toList.dropWhile isBlank = line.toList := by
    rw [← hrest, htail, List.cons_append, List.dropWhile_cons_of_neg (by simp [hc])]
  rw [Opens, trim, hblank, ← hrest, hfront, List.append_assoc]
  exact prefix_trimEnd hd front rest

/-- A line without a blank before it starts with what opens it. -/
theorem Opens.starts {c : Char} {cs : List Char} (h : Opens start line)
    (hline : line.toList = c :: cs) (hc : isBlank c = false) : start.toList <+: c :: cs := by
  rw [Opens, hline, trim_cons hc] at h
  exact h.trans (trimEnd_prefix_self _)

theorem trim_indented (depth : Nat) (line : String) :
    trim (Code.indented depth line).toList = trim line.toList := by
  unfold Code.indented
  split
  · rename_i hblank
    rw [trim, trim, List.dropWhile_eq_nil_iff.2 (List.all_eq_true.1 hblank)]
    rfl
  · rw [Code.indent, String.toList_append, String.toList_ofList, trim,
      List.dropWhile_append_of_pos fun c hc => List.eq_of_mem_replicate hc ▸ rfl]
    rfl

@[simp] theorem opens_indented {depth : Nat} :
    Opens start (Code.indented depth line) ↔ Opens start line := by
  rw [Opens, trim_indented, Opens]

/-! ## The first line of a text -/

/-- The line that is being read keeps its start. -/
theorem linesFrom_start {start line : List Char} (hline : start <+: line.reverse)
    (hne : start ≠ []) (hlast : start.getLast? ≠ some '\r') (rest : List Char) :
    ∃ first others, linesFrom line rest = first :: others ∧ start <+: first := by
  induction rest generalizing line with
  | nil =>
    have hsome : line.isEmpty = false := by
      cases line with
      | nil => exact absurd (List.prefix_nil.1 hline) hne
      | cons => rfl
    exact ⟨line.reverse, [], by simp [linesFrom, hsome], hline⟩
  | cons c rest ih =>
    by_cases hc : c = '\n'
    · subst hc
      refine ⟨finishLine line, linesFrom [] rest, by rw [linesFrom], ?_⟩
      unfold finishLine
      split
      · rename_i line
        rw [List.reverse_cons, List.prefix_concat_iff] at hline
        rcases hline with rfl | hline
        · exact absurd (by simp) hlast
        · exact hline
      · exact hline
    · rw [linesFrom.eq_3 _ _ _ hc]
      refine ih ?_
      rw [List.reverse_cons]
      exact hline.trans (List.prefix_append _ _)

theorem linesFrom_append (line start rest : List Char) (h : '\n' ∉ start) :
    linesFrom line (start ++ rest) = linesFrom (start.reverse ++ line) rest := by
  induction start generalizing line with
  | nil => rfl
  | cons c start ih =>
    obtain ⟨hc, hstart⟩ : '\n' ≠ c ∧ '\n' ∉ start := by simpa using h
    rw [List.cons_append, linesFrom.eq_3 _ _ _ (fun heq => hc heq.symm), ih _ hstart]
    simp

theorem IsStart.exists_line (h : IsStart start) {text : String}
    (htext : start.toList <+: text.toList) : ∃ line ∈ lines text, Opens start line := by
  obtain ⟨rest, hrest⟩ := htext
  obtain ⟨c, hlast, hc⟩ := h.last
  have hne : start.toList ≠ [] := by
    intro hnil
    rw [hnil] at hlast
    cases hlast
  have hreturn : start.toList.getLast? ≠ some '\r' := by
    rw [hlast]
    intro heq
    obtain rfl := Option.some.inj heq
    cases hc
  have hread : start.toList <+: start.toList.reverse.reverse := by simp
  obtain ⟨first, others, hlines, hfirst⟩ := linesFrom_start hread hne hreturn rest
  refine ⟨String.ofList first, ?_, h.opens (by simpa using hfirst)⟩
  rw [lines, ← hrest, linesFrom_append _ _ _ h.line, List.append_nil, hlines]
  exact List.mem_cons_self

end Text

/-! ## Expressions of one line -/

namespace Text

theorem newline_not_mem_literalChar (c : Char) : '\n' ∉ literalChar c := by
  unfold literalChar
  split_ifs with hquote hslash hnewline hreturn htab hnull hescape
  · decide
  · decide
  · decide
  · decide
  · decide
  · decide
  · have hdigits : '\n' ∉ hexDigits c.toNat := fun hmem =>
      absurd (Syntax.isHexDigit_of_mem_hexDigits _ hmem) (by decide)
    simp [escapeCodePoint, hdigits]
  · simpa using Ne.symm hnewline

theorem isSingleLine_literal (text : String) : IsSingleLine (literal text) := by
  intro hmem
  rw [literal, String.toList_ofList] at hmem
  rcases List.mem_cons.1 hmem with heq | hmem
  · cases heq
  · rcases List.mem_append.1 hmem with hmem | hmem
    · obtain ⟨c, -, hc⟩ := List.mem_flatMap.1 hmem
      exact newline_not_mem_literalChar c hc
    · exact absurd hmem (by decide)

instance (s : String) : Decidable (IsSingleLine s) :=
  inferInstanceAs (Decidable ('\n' ∉ s.toList))

@[simp] theorem isSingleLine_append {s t : String} :
    IsSingleLine (s ++ t) ↔ IsSingleLine s ∧ IsSingleLine t := by
  simp [IsSingleLine]

theorem isSingleLine_intercalate {separator : String} (hseparator : IsSingleLine separator)
    {pieces : List String} (h : ∀ piece ∈ pieces, IsSingleLine piece) :
    IsSingleLine (separator.intercalate pieces) := by
  induction pieces with
  | nil =>
    rw [String.intercalate_nil]
    decide
  | cons piece pieces ih =>
    have hpiece := h piece List.mem_cons_self
    have hpieces := ih fun other hother => h other (List.mem_cons_of_mem _ hother)
    cases pieces with
    | nil => rwa [String.intercalate_singleton]
    | cons next rest =>
      rw [String.intercalate_cons_cons, isSingleLine_append, isSingleLine_append]
      exact ⟨⟨hpiece, hseparator⟩, hpieces⟩

end Text

namespace Expr

open Text

variable {e : Expr} {name : String} {args : List Expr}

/-- The expression is written on one line. -/
def IsOneLine (e : Expr) : Prop := IsSingleLine e.text

theorem mem_texts {text : String} : text ∈ texts args ↔ ∃ e ∈ args, text = e.text := by
  induction args with
  | nil => simp [texts]
  | cons e args ih => simp [texts, ih]

theorem isSingleLine_texts (h : ∀ e ∈ args, e.IsOneLine) :
    IsSingleLine (", ".intercalate (texts args)) := by
  refine isSingleLine_intercalate (by decide) fun text htext => ?_
  obtain ⟨e, he, rfl⟩ := mem_texts.1 htext
  exact h e he

theorem isOneLine_literal (s : String) : (literal s).IsOneLine := isSingleLine_literal s

theorem IsOneLine.call (hname : IsSingleLine name) (h : ∀ e ∈ args, e.IsOneLine) :
    (call name args).IsOneLine := by
  rw [IsOneLine, text]
  simp only [isSingleLine_append]
  exact ⟨⟨⟨hname, by decide⟩, isSingleLine_texts h⟩, by decide⟩

theorem IsOneLine.method (he : e.IsOneLine) (hname : IsSingleLine name)
    (h : ∀ e ∈ args, e.IsOneLine) : (method e name args).IsOneLine := by
  rw [IsOneLine, text]
  simp only [isSingleLine_append]
  exact ⟨⟨⟨⟨⟨he, by decide⟩, hname⟩, by decide⟩, isSingleLine_texts h⟩, by decide⟩

theorem IsOneLine.field (he : e.IsOneLine) (hname : IsSingleLine name) :
    (field e name).IsOneLine := by
  rw [IsOneLine, text]
  simp only [isSingleLine_append]
  exact ⟨⟨he, by decide⟩, hname⟩

theorem IsOneLine.borrow (he : e.IsOneLine) : (borrow e).IsOneLine := by
  rw [IsOneLine, text, isSingleLine_append]
  exact ⟨by decide, he⟩

theorem IsOneLine.toOwned (he : e.IsOneLine) : e.toOwned.IsOneLine :=
  he.method (by decide) (List.forall_mem_nil _)

end Expr

/-! ## Lines of statements -/

theorem mem_linesOfStmts {depth : Nat} {line : String} {stmts : List Stmt} :
    line ∈ Code.linesOfAll depth (codeOfStmts stmts) ↔
      ∃ s ∈ stmts, line ∈ Code.linesAt depth s.code := by
  induction stmts with
  | nil => simp [codeOfStmts, Code.linesOfAll]
  | cons s stmts ih => simp [codeOfStmts, Code.linesOfAll, ih]

/-- At any depth, some line of the statements starts with the text. -/
def OpensLine (start : String) (stmts : List Stmt) : Prop :=
  ∀ depth, ∃ line ∈ Code.linesOfAll depth (codeOfStmts stmts), Text.Opens start line

namespace OpensLine

variable {start : String} {s : Stmt} {stmts : List Stmt}

theorem mono {front : List Stmt} (h : OpensLine start front) (hsub : front ⊆ stmts) :
    OpensLine start stmts := by
  intro depth
  obtain ⟨line, hline, hopens⟩ := h depth
  obtain ⟨s, hs, hline⟩ := mem_linesOfStmts.1 hline
  exact ⟨line, mem_linesOfStmts.2 ⟨s, hsub hs, hline⟩, hopens⟩

theorem of_text {text : String} (hs : s.code = .text text) (hmem : s ∈ stmts)
    (hstart : Text.IsStart start) (htext : start.toList <+: text.toList) :
    OpensLine start stmts := by
  intro depth
  obtain ⟨line, hline, hopens⟩ := hstart.exists_line htext
  refine ⟨Code.indented depth line, ?_, Text.opens_indented.2 hopens⟩
  refine mem_linesOfStmts.2 ⟨s, hmem, ?_⟩
  rw [hs]
  exact List.mem_map_of_mem hline

theorem of_block {header footer : String} {body : List Stmt}
    (hs : s.code = .block header (codeOfStmts body) footer) (hmem : s ∈ stmts)
    (h : OpensLine start body) : OpensLine start stmts := by
  intro depth
  obtain ⟨line, hline, hopens⟩ := h (depth + 1)
  refine ⟨line, mem_linesOfStmts.2 ⟨s, hmem, ?_⟩, hopens⟩
  rw [hs, Code.linesAt, List.mem_append, List.mem_append]
  exact .inl (.inr hline)

end OpensLine

end ClientGen
