import ClientGen.Proofs.Code.Lines
import ClientGen.Proofs.Codec.Writing
import ClientGen.Proofs.Protocol.Calls
import ClientGen.Proofs.Protocol.Formats

/-!
# Whether a request is declared as mutable

A request is declared before anything is written to it, and whether it has to be mutable is decided
by the template and the traits of the members alone. The decision is right: the request is mutable
exactly if a line behind its declaration writes to it.
-/

namespace ClientGen

open Text

/-! ## Names of one line -/

namespace Naming

theorem isMark_newline : Unicode.IsMark '\n' := ⟨by decide, by decide⟩

theorem isSingleLine_snakeCase {name : String} (h : IsSingleLine name) :
    IsSingleLine (snakeCase name) := fun hmem => h (mem_of_mem_snakeCase isMark_newline hmem).1

theorem isSingleLine_fieldName {name : String} (h : IsSingleLine name) :
    IsSingleLine (fieldName name) := by
  have hsnake := isSingleLine_snakeCase h
  unfold fieldName escapeKeyword
  split_ifs
  · exact isSingleLine_append.2 ⟨hsnake, by decide⟩
  · exact isSingleLine_append.2 ⟨by decide, hsnake⟩
  · exact isSingleLine_append.2 ⟨by decide, hsnake⟩
  · exact hsnake

theorem isSingleLine_tempStem {name : String} (h : IsSingleLine name) :
    IsSingleLine (tempStem name) := by
  have hsnake := isSingleLine_snakeCase h
  unfold tempStem
  dsimp only
  split_ifs
  · decide
  · exact isSingleLine_append.2 ⟨by decide, hsnake⟩
  · exact hsnake

end Naming

namespace Call

variable {m : Model} {c : Call} {e : Member} {segments : List UriSegment} {stmts : List Stmt}

theorem toList_labelLocal (name : String) :
    (labelLocal name).toList = (Naming.tempStem name).toList ++ "_label".toList := by
  simp [labelLocal, CodecPath.ofRole, CodecPath.ofMember, toString]

theorem isSingleLine_labelLocal {name : String} (h : IsSingleLine name) :
    IsSingleLine (labelLocal name) := by
  rw [IsSingleLine, toList_labelLocal, List.mem_append]
  exact not_or.2 ⟨Naming.isSingleLine_tempStem h, by decide⟩

theorem blank_not_mem_labelLocal (name : String) : ' ' ∉ (labelLocal name).toList := by
  rw [toList_labelLocal, List.mem_append]
  exact not_or.2 ⟨Naming.blank_not_mem_tempStem name, by decide⟩

theorem low_mem_labelLocal (name : String) : '_' ∈ (labelLocal name).toList := by
  rw [toList_labelLocal, List.mem_append]
  exact .inr (by decide)

theorem isOneLine_place (h : IsSingleLine e.name) : (place e).IsOneLine :=
  Expr.IsOneLine.field (show IsSingleLine "input" by decide) (Naming.isSingleLine_fieldName h)

theorem isOneLine_scalarText {target : ShapeId} {value : Expr} {byRef : Bool} {t : ScalarText}
    (h : scalarText m target value byRef = .ok t) (hvalue : value.IsOneLine) :
    t.text.IsOneLine := by
  have hreference : (if byRef then value else value.borrow).IsOneLine := by
    cases byRef
    · exact hvalue.borrow
    · exact hvalue
  have hwire : ∀ f, IsSingleLine f →
      (Wire.call f (if byRef then value else value.borrow)).IsOneLine := fun f hf =>
    .call (isSingleLine_append.2 ⟨by decide, hf⟩) (by simpa using hreference)
  obtain ⟨s, -, ⟨-, rfl⟩ | ⟨-, rfl⟩ | rfl⟩ := scalarText_cases h
  · exact (hwire _ (by decide)).toOwned
  · exact (((hwire _ (by decide)).method (by decide) (List.forall_mem_nil _)).method (by decide)
      (List.forall_mem_nil _)).toOwned
  · exact hvalue.toOwned

theorem isOneLine_encodeLabel {text : Expr} (h : text.IsOneLine) (greedy : Bool) :
    (encodeLabel text greedy).IsOneLine := by
  have hencoded : (Expr.call "percent_encode" [text.borrow]).IsOneLine :=
    .call (by decide) (by simpa using h.borrow)
  cases greedy
  · exact hencoded
  · refine hencoded.method (by decide) ?_
    simp [Expr.isOneLine_literal]

/-! ## Declarations -/

/-- How the line that declares a request starts. -/
def declaration (mutable : Bool) : String :=
  if mutable then "let mut request =" else "let request ="

theorem isStart_declaration (mutable : Bool) : IsStart (declaration mutable) := by
  cases mutable
  · exact ⟨⟨'l', rfl, rfl⟩, ⟨'=', rfl, rfl⟩, by decide⟩
  · exact ⟨⟨'l', rfl, rfl⟩, ⟨'=', rfl, rfl⟩, by decide⟩

def DeclaresNone (line : String) : Prop := ∀ mutable, ¬ Opens (declaration mutable) line

theorem declaresNone_of_head {line : String} {c : Char} (cs : List Char)
    (hline : line.toList = c :: cs) (hblank : isBlank c = false) (hc : c ≠ 'l') :
    DeclaresNone line := by
  intro mutable h
  obtain ⟨rest, hrest⟩ := h.starts hline hblank
  cases mutable <;> exact hc (List.cons.inj hrest).1.symm

theorem toList_declaration (mutable : Bool) : ∃ name rest,
    (declaration mutable).toList = "let ".toList ++ (name ++ ' ' :: rest) ∧ ' ' ∉ name ∧
      '_' ∉ name := by
  cases mutable
  · exact ⟨"request".toList, ['='], by decide, by decide, by decide⟩
  · exact ⟨"mut".toList, "request =".toList, by decide, by decide, by decide⟩

/-- A line that binds another name declares no request. -/
theorem declaresNone_let {line x : String} {rest : List Char}
    (hline : line.toList = "let ".toList ++ (x.toList ++ ' ' :: rest)) (hx : ' ' ∉ x.toList)
    (hlow : '_' ∈ x.toList) : DeclaresNone line := by
  intro mutable h
  obtain ⟨tail, htail⟩ := h.starts hline rfl
  obtain ⟨name, behind, hname, hblank, hnone⟩ := toList_declaration mutable
  rw [hname, List.append_assoc, List.append_assoc, List.cons_append] at htail
  obtain ⟨rfl, -⟩ := split_inj hblank hx (List.append_cancel_left htail)
  exact hnone hlow

/-- At any depth, no line of the statements declares a request. -/
def LeavesAlone (stmts : List Stmt) : Prop :=
  ∀ depth, ∀ line ∈ Code.linesOfAll depth (codeOfStmts stmts), DeclaresNone line

theorem LeavesAlone.append {front back : List Stmt} (hfront : LeavesAlone front)
    (hback : LeavesAlone back) : LeavesAlone (front ++ back) := by
  intro depth line hline
  rw [codeOfStmts_append, Code.linesOfAll_append] at hline
  exact (List.mem_append.1 hline).elim (hfront depth line) (hback depth line)

theorem leavesAlone_needs {target : ShapeId} {value : Expr} {byRef : Bool} {t : ScalarText}
    (h : scalarText m target value byRef = .ok t) : LeavesAlone t.needs := by
  obtain ⟨s, -, ⟨-, rfl⟩ | ⟨-, rfl⟩ | rfl⟩ := scalarText_cases h <;>
    exact fun depth => List.forall_mem_nil _

theorem declaresNone_indented {depth : Nat} {line : String} (h : DeclaresNone line) :
    DeclaresNone (Code.indented depth line) := fun mutable hopens =>
  h mutable (opens_indented.1 hopens)

theorem declaresNone_of_mem_textLines {depth : Nat} {text line : String} (htext : IsSingleLine text)
    (h : DeclaresNone text) (hmem : line ∈ Code.textLines depth text) : DeclaresNone line := by
  obtain ⟨one, hone, rfl⟩ := List.mem_map.1 hmem
  have hlines := linesFrom_singleLine [] text.toList htext
  rw [lines, hlines] at hone
  split at hone
  · cases hone
  · obtain rfl : one = text := by simpa using hone
    exact declaresNone_indented h

/-- A line that binds the local of a label declares no request. -/
theorem declaresNone_label (name : String) {text : String} (rest : List Char)
    (htext : text.toList = "let ".toList ++ ((labelLocal name).toList ++ ' ' :: rest)) :
    DeclaresNone text :=
  declaresNone_let htext (blank_not_mem_labelLocal name) (low_mem_labelLocal name)

section

variable {depth : Nat} {line name : String} {value : Expr}

theorem declaresNone_of_bind (hname : IsSingleLine name) (hvalue : value.IsOneLine)
    (hline : line ∈ Code.linesAt depth (Stmt.bind (labelLocal name) value).code) :
    DeclaresNone line := by
  refine declaresNone_of_mem_textLines ?_ (declaresNone_label name
    ("= " ++ value.text ++ ";").toList ?_) hline
  · simp only [isSingleLine_append]
    exact ⟨⟨⟨⟨by decide, isSingleLine_labelLocal hname⟩, by decide⟩, hvalue⟩, by decide⟩
  · simp [toString]

theorem declaresNone_of_matchHeader (hname : IsSingleLine name) (hvalue : value.IsOneLine)
    (hline : line ∈ Code.textLines depth s!"let {labelLocal name} = match {value.text} \x7b") :
    DeclaresNone line := by
  refine declaresNone_of_mem_textLines ?_ (declaresNone_label name
    ("= match " ++ value.text ++ " \x7b").toList ?_) hline
  · simp only [isSingleLine_append]
    exact ⟨⟨⟨⟨by decide, isSingleLine_labelLocal hname⟩, by decide⟩, hvalue⟩, by decide⟩
  · simp [toString]

theorem declaresNone_of_arm {p : Pattern} {c : Char} {cs : List Char} (hp : p.text.toList = c :: cs)
    (hblank : isBlank c = false) (hc : c ≠ 'l') (hpattern : IsSingleLine p.text)
    (hvalue : value.IsOneLine) (hline : line ∈ Code.linesAt depth (Arm.value p value).code) :
    DeclaresNone line := by
  refine declaresNone_of_mem_textLines ?_ (declaresNone_of_head
    (cs ++ (" => " ++ value.text ++ ",").toList) ?_ hblank hc) hline
  · simp only [isSingleLine_append]
    exact ⟨⟨⟨hpattern, by decide⟩, hvalue⟩, by decide⟩
  · simp [toString, hp]

end

/-- No member of the input has a line feed in its name. -/
def HasNamesOfOneLine (c : Call) : Prop :=
  ∀ input, c.input = some input → ∀ e ∈ input.members, IsSingleLine e.name

theorem isOneLine_missingLabel (e : Member) : (missingLabel e).IsOneLine :=
  .call (by decide) (List.forall_mem_singleton.2
    (.call (by decide) (List.forall_mem_singleton.2 (Expr.isOneLine_literal _).toOwned)))

theorem leavesAlone_bindLabel {name binding : String} {greedy : Bool} (hnames : c.HasNamesOfOneLine)
    (h : bindLabel m c name greedy = .ok (stmts, binding)) :
    IsSingleLine name ∧ LeavesAlone stmts := by
  obtain ⟨rfl, input, e, symbol, t, hinput, he, -, hcases⟩ := bindLabel_cases h
  have hline := hnames input hinput e he.mem
  have hname : IsSingleLine name := he.1 ▸ hline
  have hplace := isOneLine_place hline
  refine ⟨hname, ?_⟩
  obtain ⟨-, ht, rfl⟩ | ⟨-, ht, rfl⟩ := hcases
  · have hvalue : (Expr.source "value").IsOneLine := show IsSingleLine "value" by decide
    have htext := isOneLine_encodeLabel (isOneLine_scalarText ht hvalue) greedy
    refine (leavesAlone_needs ht).append fun depth line hline => ?_
    simp only [codeOfStmts, Stmt.code, codeOfArms, Code.linesOfAll, Code.linesAt,
      List.append_nil, List.mem_append] at hline
    rcases hline with (hline | hline | hline) | hline
    · exact declaresNone_of_matchHeader hname hplace.borrow hline
    · exact declaresNone_of_arm rfl rfl (by decide) (by decide) htext hline
    · exact declaresNone_of_arm rfl rfl (by decide) (by decide) (isOneLine_missingLabel e) hline
    · exact declaresNone_of_mem_textLines (by decide) (declaresNone_of_head _ rfl rfl (by decide))
        hline
  · refine (leavesAlone_needs ht).append fun depth line hline => ?_
    rw [codeOfStmts, codeOfStmts, Code.linesOfAll, Code.linesOfAll, List.append_nil] at hline
    exact declaresNone_of_bind hname
      (isOneLine_encodeLabel (isOneLine_scalarText ht hplace) greedy) hline

theorem leavesAlone_bindLabels {bindings : List String} (hnames : c.HasNamesOfOneLine)
    (h : bindLabels m c segments = .ok (stmts, bindings)) :
    (∀ name ∈ labelNames segments, IsSingleLine name) ∧ LeavesAlone stmts := by
  refine bindLabels_induction (motive := fun names stmts _ =>
    (∀ name ∈ names, IsSingleLine name) ∧ LeavesAlone stmts)
    ⟨List.forall_mem_nil _, fun depth => List.forall_mem_nil _⟩ (fun hown hothers => ?_) h
  obtain ⟨hname, hleaves⟩ := leavesAlone_bindLabel hnames hown
  exact ⟨List.forall_mem_cons.2 ⟨hname, hothers.1⟩, hleaves.append hothers.2⟩

/-- The statements of the labels declare no request, and the path is written on one line. -/
theorem leavesAlone_path {path : Expr} (hnames : c.HasNamesOfOneLine)
    (h : c.path m segments = .ok (stmts, path)) : LeavesAlone stmts ∧ path.IsOneLine := by
  obtain ⟨-, labels, hbound, hcases⟩ := path_cases h
  obtain ⟨hlines, hlabels⟩ := leavesAlone_bindLabels hnames hbound
  obtain ⟨-, rfl, rfl⟩ | ⟨-, rfl, rfl⟩ := hcases
  · exact ⟨hlabels, Expr.isOneLine_literal _⟩
  · refine ⟨hlabels.append fun depth => List.forall_mem_nil _, .call (by decide) ?_⟩
    refine List.forall_mem_cons.2 ⟨Expr.isOneLine_literal _, fun arg harg => ?_⟩
    obtain ⟨name, hname, rfl⟩ := List.mem_map.1 harg
    exact isSingleLine_labelLocal (hlines name hname)

/-! ## Writes -/

theorem isStart_request : IsStart "request." :=
  ⟨⟨'r', rfl, rfl⟩, ⟨'.', rfl, rfl⟩, by decide⟩

theorem opensLine_run {value : Expr} (hmem : .run value ∈ stmts)
    (h : "request.".toList <+: value.text.toList) : OpensLine "request." stmts := by
  refine .of_text rfl hmem isStart_request (h.trans ?_)
  simp [toString]

theorem opensLine_addQuery {name : String} {value : Expr} (h : addQuery name value ∈ stmts) :
    OpensLine "request." stmts :=
  opensLine_run h (by simp [onRequest, Expr.text])

theorem opensLine_setHeader {name : String} {value : Expr} (h : setHeader name value ∈ stmts) :
    OpensLine "request." stmts :=
  opensLine_run h (by simp [Expr.text])

theorem opensLine_setJsonBody {value : Expr} (h : setJsonBody value ∈ stmts) :
    OpensLine "request." stmts :=
  opensLine_run h (by simp [onRequest, Expr.text])

section

variable {input : Shape} {name : String}

theorem opensLine_withMember {role : String}
    {body : Expr → Bool → Except GenerationError (List Stmt)}
    (hbody : ∀ value byRef inner, body value byRef = .ok inner → OpensLine "request." inner)
    (h : withMember m input e role body = .ok stmts) : OpensLine "request." stmts := by
  obtain ⟨symbol, -, h⟩ := bind_eq_ok.1 h
  split at h
  · obtain ⟨inner, hinner, h⟩ := bind_eq_ok.1 h
    obtain rfl := Except.ok.inj h
    exact .of_block rfl List.mem_cons_self (hbody _ _ _ hinner)
  · exact hbody _ _ _ h

theorem opensLine_bindQuery (h : bindQuery m input e name = .ok stmts) :
    OpensLine "request." stmts := by
  refine opensLine_withMember (fun value byRef inner hinner => ?_) h
  obtain ⟨element, -, hinner⟩ := bind_eq_ok.1 hinner
  cases element with
  | none =>
    obtain ⟨t, -, hinner⟩ := bind_eq_ok.1 hinner
    obtain rfl := Except.ok.inj hinner
    exact opensLine_addQuery (List.mem_append_right _ List.mem_cons_self)
  | some pair =>
    obtain ⟨t, -, hinner⟩ := bind_eq_ok.1 hinner
    obtain rfl := Except.ok.inj hinner
    exact .of_block rfl (List.mem_append_right _ List.mem_cons_self)
      (opensLine_addQuery List.mem_cons_self)

theorem opensLine_bindHeader (h : bindHeader m input e name = .ok stmts) :
    OpensLine "request." stmts := by
  refine opensLine_withMember (fun value byRef inner hinner => ?_) h
  obtain ⟨element, -, hinner⟩ := bind_eq_ok.1 hinner
  cases element <;> obtain ⟨t, -, hinner⟩ := bind_eq_ok.1 hinner <;>
    obtain rfl := Except.ok.inj hinner
  · exact opensLine_setHeader (List.mem_append_right _ List.mem_cons_self)
  · exact opensLine_setHeader
      (List.mem_append_right _ (List.mem_cons_of_mem _ List.mem_cons_self))

theorem opensLine_payloadBody {owned reference : Expr}
    (h : PayloadBody m e owned reference stmts) : OpensLine "request." stmts := by
  cases h with
  | record => exact opensLine_setJsonBody List.mem_cons_self
  | binary | text => exact opensLine_setHeader List.mem_cons_self
  | encoded =>
    exact opensLine_setJsonBody
      (List.mem_cons_of_mem _ (List.mem_append_right _ List.mem_cons_self))

theorem opensLine_bindPayload (h : bindPayload m input e = .ok stmts) :
    OpensLine "request." stmts := by
  rcases bindPayload_cases h with ⟨body, hbody, rfl⟩ | hbody
  · exact .of_block rfl List.mem_cons_self (opensLine_payloadBody hbody)
  · exact opensLine_payloadBody hbody

theorem opensLine_bindBody {bound : List Member} (h : bound.length ≠ input.members.length) :
    OpensLine "request." (bindBody input bound) := by
  unfold bindBody
  rw [if_neg h]
  split
  · exact opensLine_setJsonBody List.mem_cons_self
  · exact opensLine_setJsonBody (List.mem_cons_of_mem _ (List.mem_cons_of_mem _
      (List.mem_cons_of_mem _ List.mem_cons_self)))

theorem length_bound_ne (he : e ∈ input.members) (h : isBound e = false) :
    (input.members.filter isBound).length ≠ input.members.length := by
  intro hlength
  have hbound := List.length_filter_eq_length_iff.1 hlength e he
  rw [h] at hbound
  cases hbound

/-- Each member that is no label has its value written to the request, or that of the last payload
is. -/
theorem opensLine_bindInput (h : bindInput m input = .ok stmts) (he : e ∈ input.members)
    (hlabel : e.traits.isHttpLabel = false) : OpensLine "request." stmts := by
  obtain ⟨each, heach, h⟩ := bind_eq_ok.1 h
  obtain ⟨own, hown, hbound⟩ := exists_of_mem_mapM heach e he
  have hfirst : OpensLine "request." own → ∀ back, OpensLine "request." (each.flatten ++ back) :=
    fun hopens back => hopens.mono fun s hs =>
      List.mem_append_left _ (List.mem_flatten_of_mem hown hs)
  unfold bindMember at hbound
  cases hlast : (input.members.filter isPayload).getLast? with
  | some p =>
    rw [hlast] at h
    obtain ⟨body, hbody, h⟩ := bind_eq_ok.1 h
    obtain rfl := Except.ok.inj h
    exact (opensLine_bindPayload hbody).mono (List.subset_append_right _ _)
  | none =>
    rw [hlast] at h
    obtain rfl := Except.ok.inj h
    cases hdestination : destination e with
    | label => exact absurd (isHttpLabel_of_destination hdestination) (by simp [hlabel])
    | query name =>
      rw [hdestination] at hbound
      exact hfirst (opensLine_bindQuery hbound) _
    | header name =>
      rw [hdestination] at hbound
      exact hfirst (opensLine_bindHeader hbound) _
    | payload | body =>
      have hbound : isBound e = false := by rw [isBound, hdestination]
      exact (opensLine_bindBody (length_bound_ne he hbound)).mono (List.subset_append_right _ _)

/-- An input all of whose members are labels needs nothing but the path. -/
theorem bindInput_of_labels (hlabels : ∀ e ∈ input.members, e.traits.isHttpLabel = true) :
    bindInput m input = .ok [] := by
  have hdestination := fun e he => destination_of_isHttpLabel (hlabels e he)
  have heach : input.members.mapM (bindMember m input) = .ok (input.members.map fun _ => []) :=
    mapM_eq_ok fun e he => by rw [bindMember, hdestination e he]
  have hpayload : input.members.filter isPayload = [] :=
    List.filter_eq_nil_iff.2 fun e he => by simp [isPayload, hdestination e he]
  have hbound : input.members.filter isBound = input.members :=
    List.filter_eq_self.2 fun e he => by simp [isBound, hdestination e he]
  rw [bindInput, ok_bind heach, hpayload, hbound, bindBody, if_pos rfl]
  simp [pure, Except.pure]

end

/-! ## Requests -/

theorem lines_newRequest {path : Expr} (hpath : path.IsOneLine) (mutable : Bool)
    (method : HttpMethod) (depth : Nat) : ∃ line,
      Code.linesAt depth (newRequest mutable method path).code = [line] ∧
        Opens (declaration mutable) line := by
  have hmethod : (Expr.source s!"Method::{method.variant}").IsOneLine := by
    cases method <;> exact show IsSingleLine _ by decide
  have hvalue : (Expr.call "HttpRequest::new"
      [.source s!"Method::{method.variant}", path]).IsOneLine :=
    .call (by decide) (List.forall_mem_cons.2 ⟨hmethod, List.forall_mem_singleton.2 hpath⟩)
  have hlines : ∀ text : String, (declaration mutable).toList <+: text.toList →
      IsSingleLine text → ∃ line, Code.textLines depth text = [line] ∧
        Opens (declaration mutable) line := by
    intro text htext hline
    have hne : text.toList ≠ [] := by
      rintro hnil
      rw [hnil, List.prefix_nil] at htext
      cases mutable <;> cases htext
    refine ⟨Code.indented depth text, ?_, opens_indented.2 ((isStart_declaration mutable).opens htext)⟩
    rw [Code.textLines, lines_singleLine hline hne, List.map_singleton]
  cases mutable
  · refine hlines _ ⟨_, by simp [declaration, toString]; rfl⟩ ?_
    simp only [isSingleLine_append]
    exact ⟨⟨by decide, hvalue⟩, by decide⟩
  · refine hlines _ ⟨_, by simp [declaration, toString]; rfl⟩ ?_
    simp only [isSingleLine_append]
    exact ⟨⟨by decide, hvalue⟩, by decide⟩

/-- No line declares a request both as a mutable one and as one that is not. -/
theorem not_opens_declaration {line : String} {mutable : Bool}
    (h : Opens (declaration mutable) line) : ¬ Opens (declaration !mutable) line := by
  intro hother
  have heither := List.prefix_or_prefix_of_prefix h hother
  cases mutable <;> exact absurd heither (by decide)

theorem opensLine_query {query : List (String × String)} (h : query.isEmpty = false)
    (members : List Stmt) : OpensLine "request."
      (query.map (fun pair => addQuery pair.1 (.literal pair.2)) ++ members) := by
  cases query with
  | nil => cases h
  | cons pair query => exact opensLine_addQuery List.mem_cons_self

/-- A request is declared behind the statements of its labels. Either it is mutable and something is
written to it behind the declaration, or it is not mutable and nothing stands behind it. -/
theorem restRequest_cases (h : restRequest m c = .ok stmts) :
    ∃ segments labels path mutable after, c.path m segments = .ok (labels, path) ∧
      stmts = labels ++ .need (.item "crate::runtime" "Method") ::
        newRequest mutable c.http.method path :: after ∧
      ((mutable = true ∧ OpensLine "request." after) ∨ (mutable = false ∧ after = [])) := by
  obtain ⟨segments, -, h⟩ := bind_eq_ok.1 h
  obtain ⟨⟨labels, path⟩, hpath, h⟩ := bind_eq_ok.1 h
  dsimp only at h
  generalize hquery : (UriTemplate.ofText c.http.uri).query = query at h
  have hmutable : query.isEmpty = false ∨ query = [] := by
    cases query <;> simp
  cases hinput : c.input with
  | none =>
    simp only [hinput] at h
    obtain rfl := Except.ok.inj h
    refine ⟨segments, labels, path, _, _, hpath, by simp only [List.append_assoc]; rfl, ?_⟩
    obtain hsome | rfl := hmutable
    · exact .inl ⟨by simp [hsome], opensLine_query hsome _⟩
    · exact .inr ⟨rfl, rfl⟩
  | some input =>
    simp only [hinput] at h
    obtain ⟨members, hmembers, h⟩ := bind_eq_ok.1 h
    obtain rfl := Except.ok.inj h
    refine ⟨segments, labels, path, _, _, hpath, by simp only [List.append_assoc]; rfl, ?_⟩
    obtain hsome | rfl := hmutable
    · exact .inl ⟨by simp [hsome], opensLine_query hsome _⟩
    · by_cases hlabels : ∀ e ∈ input.members, e.traits.isHttpLabel = true
      · rw [bindInput_of_labels hlabels] at hmembers
        obtain rfl := Except.ok.inj hmembers
        refine .inr ⟨?_, rfl⟩
        simpa using hlabels
      · obtain ⟨e, he, hlabel⟩ : ∃ e ∈ input.members, e.traits.isHttpLabel = false := by
          simpa using hlabels
        refine .inl ⟨?_, opensLine_bindInput hmembers he hlabel⟩
        simpa using ⟨e, he, hlabel⟩

/-- Where the names of members have no line feed, the text of a request declares a mutable request
exactly if some line behind the declaration writes to the request. If none does, the request that it
declares is not mutable. -/
theorem declares_mut_iff_writes (h : restRequest m c = .ok stmts) (hnames : c.HasNamesOfOneLine)
    (w : Writer) : ∃ before declared after,
      (w.writeStmts stmts).lines = w.lines ++ (before ++ declared :: after) ∧
      (∀ line ∈ before, DeclaresNone line) ∧
      ((∃ line ∈ before ++ declared :: after, Opens "let mut request =" line) ↔
        ∃ line ∈ after, Opens "request." line) ∧
      (Opens "let mut request =" declared ↔ ∃ line ∈ after, Opens "request." line) ∧
      (Opens "let request =" declared ↔ ¬ ∃ line ∈ after, Opens "request." line) := by
  obtain ⟨segments, labels, path, mutable, after, hpath, rfl, hcases⟩ := restRequest_cases h
  obtain ⟨hlabels, honeLine⟩ := leavesAlone_path hnames hpath
  obtain ⟨declared, hdeclared, hopens⟩ :=
    lines_newRequest honeLine mutable c.http.method w.depth
  have hother := not_opens_declaration hopens
  refine ⟨Code.linesOfAll w.depth (codeOfStmts labels), declared,
    Code.linesOfAll w.depth (codeOfStmts after), ?_, hlabels w.depth, ?_⟩
  · rw [Writer.writeStmts, Writer.emit_eq, Writer.lines_place, codeOfStmts_append,
      Code.linesOfAll_append, codeOfStmts, codeOfStmts, Code.linesOfAll, Code.linesOfAll, hdeclared]
    rfl
  · obtain ⟨rfl, hwrites⟩ | ⟨rfl, rfl⟩ := hcases
    · have hafter := hwrites w.depth
      refine ⟨iff_of_true ⟨declared, by simp, hopens⟩ hafter, iff_of_true hopens hafter,
        iff_of_false hother (not_not_intro hafter)⟩
    · have hafter : ¬ ∃ line ∈ Code.linesOfAll w.depth (codeOfStmts []), Opens "request." line := by
        simp [codeOfStmts, Code.linesOfAll]
      refine ⟨iff_of_false ?_ hafter, iff_of_false hother hafter, iff_of_true hopens hafter⟩
      rintro ⟨line, hline, hmut⟩
      rcases List.mem_append.1 hline with hline | hline
      · exact hlabels w.depth line hline true hmut
      · obtain rfl := List.mem_singleton.1 hline
        exact hother hmut

/-- A note that goes into the body. -/
theorem declares_mut_iff_writes_note :
    let note : Member := ⟨"note", .prelude "String", false, []⟩
    let input : Shape := ⟨⟨"store", "Item"⟩, .structure [note], []⟩
    let c : Call := ⟨putOperation input, some input⟩
    let m : Model := ⟨.empty, .empty, .empty⟩
    ∃ stmts, restRequest m c = .ok stmts ∧ c.HasNamesOfOneLine ∧ ∀ w : Writer,
      ∃ before declared after,
        (w.writeStmts stmts).lines = w.lines ++ (before ++ declared :: after) ∧
        (Opens "let mut request =" declared ↔ ∃ line ∈ after, Opens "request." line) := by
  intro note input c m
  have hmembers : bindInput m input = .ok [setJsonBody encodedInput] := rfl
  obtain ⟨stmts, hstmts⟩ := exists_restRequest m input (by decide) hmembers
  have hnames : c.HasNamesOfOneLine := by
    intro s hs e he
    obtain rfl := Option.some.inj hs
    obtain rfl := List.mem_singleton.1 he
    exact show IsSingleLine "note" by decide
  refine ⟨stmts, hstmts, hnames, fun w => ?_⟩
  obtain ⟨before, declared, after, hlines, -, -, hmut, -⟩ := declares_mut_iff_writes hstmts hnames w
  exact ⟨before, declared, after, hlines, hmut⟩

end Call

end ClientGen
