import ClientGen.Proofs.Code.Lines

/-!
# What a writer has after any calls

A call writes lines at the depth that it finds, and opens a scope, closes one, or leaves the scopes
as they are. So the depth after any calls is the number of scopes that were opened less that of
those that were closed, and the lines are those of the calls, in their order.
-/

namespace ClientGen

/-! ## The rows of a text -/

namespace Text

/-- A piece without the carriage return at its end. -/
def dropReturn (piece : List Char) : List Char :=
  if piece.getLast? = some '\r' then piece.dropLast else piece

/-- The rows of a text: the pieces that a line feed ends, where a carriage return before it belongs
to the end, and the piece behind the last line feed, unless it is empty. -/
def rowsOf (cs : List Char) : List (List Char) :=
  let pieces := cs.splitOn '\n'
  pieces.dropLast.map dropReturn ++ pieces.getLast?.toList.filter (!·.isEmpty)

/-- The rows of a text, as texts. -/
def rows (s : String) : List String := (rowsOf s.toList).map String.ofList

theorem finishLine_reverse (piece : List Char) : finishLine piece.reverse = dropReturn piece := by
  rcases List.eq_nil_or_concat piece with rfl | ⟨front, c, rfl⟩
  · rfl
  · rw [List.concat_eq_append, dropReturn, List.getLast?_concat, List.dropLast_concat]
    by_cases hc : c = '\r'
    · subst hc
      simp [finishLine]
    · simp [finishLine, hc]

theorem rowsOf_append {piece : List Char} (h : '\n' ∉ piece) (rest : List Char) :
    rowsOf (piece ++ '\n' :: rest) = dropReturn piece :: rowsOf rest := by
  obtain ⟨first, others, hrest⟩ := List.exists_cons_of_ne_nil (List.splitOn_ne_nil '\n' rest)
  rw [rowsOf, rowsOf, List.splitOn_append_cons_self, List.splitOn_eq_singleton h, hrest]
  rfl

/-- The rows of a text are the lines that are read off it. -/
theorem linesFrom_eq (cs : List Char) : linesFrom [] cs = rowsOf cs := by
  by_cases h : '\n' ∈ cs
  · obtain ⟨piece, rest, rfl, hpiece⟩ := List.eq_append_cons_of_mem h
    rw [linesFrom_append _ _ _ hpiece, List.append_nil, linesFrom, finishLine_reverse,
      linesFrom_eq rest, rowsOf_append hpiece]
  · rw [linesFrom_singleLine [] cs h, rowsOf, List.splitOn_eq_singleton h]
    cases cs <;> rfl
termination_by cs.length

theorem lines_eq (s : String) : lines s = rows s := by
  rw [lines, linesFrom_eq, rows]

end Text

namespace Writer

/-! ## Calls -/

inductive Call
  | write (text : String)
  | writeBlank
  | writeDoc (text : String)
  | openScope (header : String)
  | closeScope (footer : String)
  | moduleDoc (text : String)
  | importName (ns name : String)
  /-- Imports a type, its head under a local name if there is one. -/
  | register (s : Symbol) (localName : Option String)
  | require (d : Dependency)

namespace Call

def opens : Call → Bool
  | openScope _ => true
  | _ => false

/-- Whether the call closes a scope, if one is open. -/
def closes : Call → Bool
  | closeScope _ => true
  | _ => false

/-- The lines of the call. Headers and footers stand at the outer depth, and a footer that closes
nothing has no lines. -/
def lines (depth : Nat) : Call → List String
  | write text | openScope text => (Text.rows text).map (Code.indented depth)
  | closeScope footer =>
    if depth = 0 then [] else (Text.rows footer).map (Code.indented (depth - 1))
  | writeDoc text => (Text.rows text).map fun row => Code.indent depth ++ Code.docLine "///" row
  | writeBlank => [""]
  | moduleDoc _ | importName .. | register .. | require _ => []

end Call

/-- What a call makes of the writer. -/
def perform (w : Writer) : Call → Except GenerationError Writer
  | .write text => .ok (w.write text)
  | .writeBlank => .ok w.writeBlank
  | .writeDoc text => .ok (w.writeDoc text)
  | .openScope header => .ok (w.openScope header)
  | .closeScope footer => w.closeScope footer
  | .moduleDoc text => .ok (w.moduleDoc text)
  | .importName ns name => .ok (w.importAs ns name none)
  | .register s localName => .ok (w.register s localName)
  | .require d => .ok (w.require d)

/-- The writer after a call. One that fails leaves it as it was. -/
def after (w : Writer) (call : Call) : Writer :=
  match w.perform call with
  | .ok changed => changed
  | .error _ => w

def afterAll (w : Writer) (calls : List Call) : Writer := calls.foldl after w

/-- The lines of some calls, each at the depth that it finds. -/
def linesOf (w : Writer) : List Call → List String
  | [] => []
  | call :: rest => call.lines w.depth ++ (w.after call).linesOf rest

/-- The calls with what each of them makes of the writer that it finds. -/
def answers (w : Writer) : List Call → List (Call × Except GenerationError Writer)
  | [] => []
  | call :: rest => (call, w.perform call) :: (w.after call).answers rest

/-- How many of the calls close a scope. -/
def closed (w : Writer) (calls : List Call) : Nat :=
  (w.answers calls).countP fun answered => answered.1.closes && answered.2.isOk

variable {w : Writer}

/-! ## One call -/

theorem closeScope_cases (w : Writer) (footer : String) :
    (w.depth = 0 ∧ w.closeScope footer = .error (.unbalancedScope w.ns (.neverOpened footer))) ∨
    ∃ innermost outer, w.scopes = innermost :: outer ∧ w.closeScope footer =
      .ok (w.place (w.lines ++ Code.textLines outer.length footer) outer) := by
  cases hscopes : w.scopes with
  | nil =>
    refine .inl ⟨by rw [depth, hscopes]; rfl, ?_⟩
    rw [closeScope, hscopes]
  | cons innermost outer =>
    refine .inr ⟨innermost, outer, rfl, ?_⟩
    have hplace : w = w.place w.lines (innermost :: outer) := by rw [← hscopes]; rfl
    rw [hplace, closeScope_place]
    rfl

theorem exists_error_closeScope_iff {footer : String} :
    (∃ e, w.closeScope footer = .error e) ↔ w.depth = 0 := by
  rcases closeScope_cases w footer with ⟨hdepth, hclose⟩ | ⟨innermost, outer, hscopes, hclose⟩
  · exact iff_of_true ⟨_, hclose⟩ hdepth
  · refine iff_of_false ?_ ?_
    · rintro ⟨e, herror⟩
      rw [hclose] at herror
      cases herror
    · rw [depth, hscopes]
      exact Nat.succ_ne_zero _

/-- A footer that closes nothing is refused, and changes nothing. -/
theorem closeScope_of_depth (h : w.depth = 0) (footer : String) :
    w.closeScope footer = .error (.unbalancedScope w.ns (.neverOpened footer)) ∧
      w.after (.closeScope footer) = w := by
  rcases closeScope_cases w footer with ⟨-, hclose⟩ | ⟨innermost, outer, hscopes, -⟩
  · exact ⟨hclose, by rw [after, perform, hclose]⟩
  · rw [depth, hscopes] at h
    cases h

theorem textLines_eq (depth : Nat) (s : String) :
    Code.textLines depth s = (Text.rows s).map (Code.indented depth) := by
  rw [Code.textLines, Text.lines_eq]

/-- A call that does not depend on the place writes nothing and leaves the scopes. -/
theorem kept_of_place {f : Writer → Writer}
    (h : ∀ w lines scopes, f (w.place lines scopes) = (f w).place lines scopes) (w : Writer) :
    (f w).lines = w.lines ∧ (f w).scopes = w.scopes := by
  have hplace : f w = (f w).place w.lines w.scopes := h w w.lines w.scopes
  rw [hplace]
  exact ⟨rfl, rfl⟩

/-- What a call changes: it writes its lines at the depth that it finds, and it opens a scope, closes
one, or leaves the scopes as they are. -/
structure IsAfter (w : Writer) (call : Call) (changed : Writer) : Prop where
  ns : changed.ns = w.ns
  lines : changed.lines = w.lines ++ call.lines w.depth
  depth : changed.depth + (if call.closes && (w.perform call).isOk then 1 else 0) =
    w.depth + if call.opens then 1 else 0

/-- Each call changes the lines and the depth as it should, and one that fails neither of them. -/
theorem isAfter_after (w : Writer) (call : Call) : w.IsAfter call (w.after call) := by
  have hkept : ∀ f : Writer → Writer, (∀ w lines scopes,
      f (w.place lines scopes) = (f w).place lines scopes) → (f w).ns = w.ns →
      call.lines w.depth = [] → call.closes = false → call.opens = false →
      w.IsAfter call (f w) := by
    intro f hplace hns hlines hcloses hopens
    obtain ⟨hkeptLines, hkeptScopes⟩ := kept_of_place hplace w
    refine ⟨hns, ?_, ?_⟩
    · rw [hkeptLines, hlines, List.append_nil]
    · rw [hcloses, hopens, depth, hkeptScopes]
      rfl
  cases call with
  | write text =>
    change w.IsAfter _ (w.write text)
    rw [write_eq, textLines_eq]
    exact ⟨rfl, rfl, rfl⟩
  | writeBlank =>
    change w.IsAfter _ w.writeBlank
    rw [writeBlank, emit_eq]
    exact ⟨rfl, rfl, rfl⟩
  | writeDoc text =>
    change w.IsAfter _ (w.writeDoc text)
    rw [writeDoc, emit_eq]
    refine ⟨rfl, ?_, rfl⟩
    rw [lines_place, Code.linesOfAll, Code.linesOfAll, List.append_nil, Code.linesAt,
      Code.docLines, Text.lines_eq]
    rfl
  | openScope header =>
    change w.IsAfter _ (w.openScope header)
    rw [openScope_eq, textLines_eq]
    exact ⟨rfl, rfl, rfl⟩
  | closeScope footer =>
    rcases closeScope_cases w footer with ⟨hdepth, hclose⟩ | ⟨innermost, outer, hscopes, hclose⟩
    · rw [(closeScope_of_depth hdepth footer).2]
      refine ⟨rfl, ?_, ?_⟩
      · rw [Call.lines, if_pos hdepth, List.append_nil]
      · rw [perform, hclose]
        rfl
    · have hafter : w.after (.closeScope footer) =
          w.place (w.lines ++ Code.textLines outer.length footer) outer := by
        rw [after, perform, hclose]
      have hdepth : w.depth = outer.length + 1 := by rw [depth, hscopes, List.length_cons]
      rw [hafter, textLines_eq]
      refine ⟨rfl, ?_, ?_⟩
      · rw [lines_place, Call.lines, if_neg (by omega), hdepth, Nat.add_sub_cancel]
      · rw [depth_place, perform, hclose, hdepth]
        rfl
  | moduleDoc text => exact ⟨rfl, (List.append_nil _).symm, rfl⟩
  | importName ns name =>
    exact hkept (importAs · ns name none) (fun w _ _ => importAs_place w ns name none)
      (ns_importAs w ns name none) rfl rfl rfl
  | register s localName =>
    exact hkept (register · s localName) (fun w _ _ => register_place w s localName)
      (ns_register w s localName) rfl rfl rfl
  | require d => exact hkept (require · d) (fun _ _ _ => rfl) rfl rfl rfl rfl

/-! ## Any calls -/

theorem afterAll_cons (w : Writer) (call : Call) (calls : List Call) :
    w.afterAll (call :: calls) = (w.after call).afterAll calls := rfl

theorem ns_afterAll (w : Writer) (calls : List Call) : (w.afterAll calls).ns = w.ns := by
  induction calls generalizing w with
  | nil => rfl
  | cons call calls ih => rw [afterAll_cons, ih, (isAfter_after w call).ns]

theorem lines_afterAll (w : Writer) (calls : List Call) :
    (w.afterAll calls).lines = w.lines ++ w.linesOf calls := by
  induction calls generalizing w with
  | nil => exact (List.append_nil _).symm
  | cons call calls ih =>
    rw [afterAll_cons, ih, (isAfter_after w call).lines, List.append_assoc, linesOf]

theorem depth_afterAll (w : Writer) (calls : List Call) :
    (w.afterAll calls).depth + w.closed calls = w.depth + calls.countP Call.opens := by
  induction calls generalizing w with
  | nil => rfl
  | cons call calls ih =>
    have hfirst := (isAfter_after w call).depth
    have hrest := ih (w.after call)
    rw [closed] at hrest
    rw [closed, answers, List.countP_cons, List.countP_cons, afterAll_cons]
    dsimp only
    omega

/-! ## The finished module -/

/-- The text of some lines, each with a line feed behind it. -/
def textOf (lines : List String) : String := String.join (lines.map (· ++ "\n"))

theorem textOf_append (front back : List String) :
    textOf (front ++ back) = textOf front ++ textOf back := by
  rw [textOf, List.map_append, String.join_append]
  rfl

theorem finalize_of_depth (h : w.depth = 0) :
    w.finalize = .ok ⟨w.ns, w.source, w.dependencies⟩ := by
  rw [finalize, List.length_eq_zero_iff.1 h]

/-- Only a module without an open scope is finished. -/
theorem depth_of_finalize {unit : SourceUnit} (h : w.finalize = .ok unit) : w.depth = 0 := by
  unfold finalize at h
  split at h
  · rename_i hscopes
    rw [depth, hscopes, List.length_nil]
  · cases h

theorem exists_finalize_iff : (∃ unit, w.finalize = .ok unit) ↔ w.depth = 0 :=
  ⟨fun ⟨_, h⟩ => depth_of_finalize h, fun h => ⟨_, finalize_of_depth h⟩⟩

theorem source_eq (w : Writer) :
    w.source = textOf (w.header ++ w.importLines) ++ textOf w.lines := by
  rw [← textOf_append]
  rfl

theorem not_mem_indent (depth : Nat) : '\n' ∉ (Code.indent depth).toList := by
  rw [Code.indent, String.toList_ofList]
  exact fun h => absurd (List.eq_of_mem_replicate h) (by decide)

/-- No call writes a line with a break in it: the text of a call is split at its breaks. -/
theorem Call.not_mem_lines {depth : Nat} {call : Call} :
    ∀ line ∈ call.lines depth, '\n' ∉ line.toList := by
  have hindented : ∀ (depth : Nat) (text : String),
      ∀ line ∈ (Text.rows text).map (Code.indented depth), '\n' ∉ line.toList := by
    intro depth text line hline
    rw [← Text.lines_eq] at hline
    obtain ⟨row, hrow, rfl⟩ := List.mem_map.1 hline
    unfold Code.indented
    split
    · exact List.not_mem_nil
    · rw [String.toList_append, List.mem_append]
      exact not_or.2 ⟨not_mem_indent depth, Text.not_mem_of_mem_lines hrow⟩
  cases call with
  | write text | openScope text => exact hindented depth text
  | closeScope footer =>
    rw [lines]
    split
    · exact List.forall_mem_nil _
    · exact hindented _ footer
  | writeDoc text =>
    rw [lines, ← Text.lines_eq]
    intro line hline
    obtain ⟨row, hrow, rfl⟩ := List.mem_map.1 hline
    obtain ⟨rest, hrest, hnew⟩ := Text.exists_docLine (Text.not_mem_of_mem_lines hrow)
    rw [String.toList_append, List.mem_append, hrest]
    refine not_or.2 ⟨not_mem_indent depth, ?_⟩
    simpa using hnew
  | writeBlank =>
    rw [lines, List.forall_mem_singleton]
    exact List.not_mem_nil
  | moduleDoc _ | importName _ _ | register _ _ | require _ => exact List.forall_mem_nil _

theorem not_mem_linesOf (w : Writer) (calls : List Call) :
    ∀ line ∈ w.linesOf calls, '\n' ∉ line.toList := by
  induction calls generalizing w with
  | nil => exact List.forall_mem_nil _
  | cons call calls ih =>
    intro line hline
    rcases List.mem_append.1 hline with hline | hline
    · exact Call.not_mem_lines line hline
    · exact ih _ line hline

end Writer

end ClientGen
