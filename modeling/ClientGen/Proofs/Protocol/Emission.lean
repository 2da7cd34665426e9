import ClientGen.Proofs.Codec.Emission
import ClientGen.Protocol.Emission

/-!
# Requests as they are written

The calls that write what binds an input to a request write the statements of the request, or fail
where making the statements does. The scope of a member that can be absent is opened and closed by
calls far from each other, and what stands between them leaves it as the innermost one.
-/

namespace ClientGen

namespace Call

open Writer

variable {m : Model} {c : Call} {input : Shape} {e : Member}

/-! ## Labels -/

theorem writeLabel_eq (name : String) (greedy : Bool) (w : Writer) :
    writeLabel m c name greedy w =
      (bindLabel m c name greedy).map fun bound => (w.writeStmts bound.1, bound.2) := by
  unfold writeLabel bindLabel
  cases c.labelMember? name with
  | none => rfl
  | some found =>
    obtain ⟨input, e⟩ := found
    dsimp only
    cases m.memberSymbol modelNamespace input.id e with
    | error err => rfl
    | ok symbol =>
      simp only [bind_ok]
      split
      · cases scalarText m e.target (.source "value") true with
        | error err => rfl
        | ok t =>
          simp [Except.map]
      · cases scalarText m e.target (place e) false with
        | error err => rfl
        | ok t =>
          simp [Except.map]

/-- The labels one after the other, by induction over the segments. -/
theorem writeLabels_eq (segments : List UriSegment) (w : Writer) :
    writeLabels m c segments w =
      (bindLabels m c segments).map fun bound => (w.writeStmts bound.1, bound.2) := by
  induction segments generalizing w with
  | nil => exact congrArg (fun w => Except.ok (w, [])) w.emit_nil.symm
  | cons segment segments ih =>
    cases segment with
    | literal text => exact ih w
    | label name greedy =>
      rw [writeLabels, bindLabels, writeLabel_eq]
      cases bindLabel m c (String.ofList name) greedy with
      | error err => rfl
      | ok own =>
        simp only [Except.map, bind_ok, ih]
        cases bindLabels m c segments with
        | error err => rfl
        | ok others => simp

theorem writePath_eq (segments : List UriSegment) (w : Writer) :
    writePath m c segments w =
      (c.path m segments).map fun bound => (w.writeStmts bound.1, bound.2) := by
  unfold writePath path
  rw [writeLabels_eq]
  cases bindLabels m c segments with
  | error err => rfl
  | ok bound =>
    simp only [Except.map, bind_ok]
    cases c.unusedLabel? segments with
    | some found => rfl
    | none =>
      dsimp only
      split
      · rfl
      · simp; rfl

/-! ## Members -/

/-- What is written for a value is written for a member in the block for one that is there, or
without a block where the member cannot be absent. -/
theorem emits_withMember {role : String} {body : Expr → Bool → Except GenerationError (List Stmt)}
    {calls : Expr → Bool → Writer → Except GenerationError Writer}
    (hbody : ∀ value byRef, Emits (calls value byRef) ((body value byRef).map codeOfStmts)) :
    Emits (fun w => do
      let o ← openMember m input e role w
      let w ← calls o.value o.byRef o.writer
      closeMember o.isOpen w)
      ((withMember m input e role body).map codeOfStmts) := by
  intro w
  unfold openMember withMember
  cases m.memberSymbol modelNamespace input.id e with
  | error err => rfl
  | ok symbol =>
    simp only [bind_ok]
    split
    · rw [bind_ok, hbody]
      cases body (.source (ofRole e role)) true with
      | error err => rfl
      | ok inner => exact closeScope_openIfLet ..
    · rw [bind_ok, hbody]
      cases body (place e) false with
      | error err => rfl
      | ok inner => rfl

theorem emits_writeQuery (name : String) :
    Emits (writeQuery m input · e name) ((bindQuery m input e name).map codeOfStmts) := by
  refine emits_withMember fun value byRef w => ?_
  unfold writeQueryValue
  cases listElement? m e.target with
  | error err => rfl
  | ok found =>
    cases found with
    | none =>
      dsimp only [bind_ok]
      cases scalarText m e.target value byRef with
      | error err => rfl
      | ok t =>
        simp [Except.map]
        rfl
    | some list =>
      obtain ⟨element, sparse⟩ := list
      dsimp only [bind_ok]
      cases scalarText m element.target (.source (ofRole e "item")) true with
      | error err => rfl
      | ok t =>
        simp [Except.map]
        rfl

theorem emits_writeHeader (name : String) :
    Emits (writeHeader m input · e name) ((bindHeader m input e name).map codeOfStmts) := by
  refine emits_withMember fun value byRef w => ?_
  unfold writeHeaderValue
  cases listElement? m e.target with
  | error err => rfl
  | ok found =>
    cases found with
    | none =>
      dsimp only [bind_ok]
      cases scalarText m e.target value byRef with
      | error err => rfl
      | ok t =>
        simp [Except.map]
        rfl
    | some list =>
      obtain ⟨element, sparse⟩ := list
      dsimp only [bind_ok]
      cases scalarText m element.target (.source (ofRole e "item")) true with
      | error err => rfl
      | ok t =>
        simp [Except.map]
        rfl

/-! ## The body -/

theorem closeMember_openIfLet (isOpen : Bool) (p : Pattern) (subject : Expr) (stmts : List Stmt)
    (w : Writer) :
    closeMember isOpen ((if isOpen then w.openIfLet p subject else w).writeStmts stmts) =
      .ok (w.writeStmts (if isOpen then [.ifLet p subject stmts] else stmts)) := by
  cases isOpen with
  | false => rfl
  | true => exact w.closeScope_openIfLet p subject stmts

/-- What is neither a record nor raw is encoded as any member is. -/
theorem closeMember_writeEncode (isOpen : Bool) (p : Pattern) (subject reference : Expr)
    (binding : String) (w : Writer) :
    ((m.writeEncode
        ⟨(if isOpen then w.openIfLet p subject else w).provide (.item "crate" "wire"),
          .ofMember e.name⟩ e.target reference binding >>=
      fun c => .ok (c.writer.writeStmt (setJsonBody (.source binding)))) >>= closeMember isOpen) =
    ((do
      let inner ← m.encode (.ofMember e.name) [] e.target reference binding
      let stmts := Stmt.need (.item "crate" "wire") :: inner ++ [setJsonBody (.source binding)]
      if isOpen then pure [Stmt.ifLet p subject stmts] else pure stmts).map codeOfStmts).map
      w.emit := by
  have hinner := m.writes_encode_member e.name e.target reference binding
  generalize m.encode _ _ _ _ _ = encoded at hinner ⊢
  cases encoded with
  | error err => simp [hinner.error, Except.map]
  | ok inner =>
    simp only [provide_eq, hinner.ok, bind_ok, writeStmt_eq, writeStmts_writeStmts,
      closeMember_openIfLet]
    split <;> rfl

theorem emits_writePayload :
    Emits (writePayload m input e) ((bindPayload m input e).map codeOfStmts) := by
  intro w
  unfold writePayload bindPayload
  cases m.resolveShape e.target (.stage "HTTP payload") with
  | error err => rfl
  | ok target =>
    cases m.memberSymbol modelNamespace input.id e with
    | error err => rfl
    | ok symbol =>
      simp only [bind_ok, writePayloadValue, Model.toCodecPath_ofMember]
      cases target.kind with
      | «structure» members | union members =>
        simp only [writeStmt_eq, bind_ok, closeMember_openIfLet]
        split <;> rfl
      | enum values | list element | set element | map key value =>
        exact closeMember_writeEncode ..
      | primitive p =>
        cases p with
        | string | blob =>
          simp only [writeStmt_eq, writeStmts_writeStmts, bind_ok, closeMember_openIfLet]
          split <;> rfl
        | _ => exact closeMember_writeEncode ..

theorem emits_writeBody (bound : List Member) :
    Emits (writeBody input bound) (.ok (codeOfStmts (bindBody input bound))) := by
  intro w
  have hremove : ∀ w : Writer, bound.foldl (fun w e => w.writeStmt
      (.run (.method (.source "fields") "remove" [input.keyExpr e]))) w = w.writeStmts
        (bound.map fun e => .run (.method (.source "fields") "remove" [input.keyExpr e])) := by
    intro w
    rw [← foldl_writeStmt, List.foldl_map]
  unfold writeBody bindBody
  dsimp only
  split
  · exact congrArg Except.ok w.emit_nil.symm
  · split
    · rfl
    · rw [hremove, closeScope_openIfLet]
      simp only [bind_ok, provide_eq, writeStmt_eq, writeStmts_writeStmts]
      rfl

/-! ## Whole requests -/

theorem emits_writeMember :
    Emits (writeMember m input · e) ((bindMember m input e).map codeOfStmts) := by
  intro w
  change writeMember m input w e = _
  unfold writeMember bindMember
  cases destination e with
  | query name => exact emits_writeQuery name w
  | header name => exact emits_writeHeader name w
  | label => exact congrArg Except.ok w.emit_nil.symm
  | payload => exact congrArg Except.ok w.emit_nil.symm
  | body => exact congrArg Except.ok w.emit_nil.symm

theorem emits_writeInput :
    Emits (writeInput m input) ((bindInput m input).map codeOfStmts) := by
  intro w
  unfold writeInput bindInput
  rw [Emits.foldlM_stmts (fun _ => emits_writeMember) input.members w]
  cases input.members.mapM (bindMember m input) with
  | error err => rfl
  | ok each =>
    simp only [Except.map, bind_ok]
    cases (input.members.filter isPayload).getLast? with
    | some e =>
      dsimp only
      rw [emits_writePayload]
      cases bindPayload m input e with
      | error err => rfl
      | ok inner => exact congrArg Except.ok (w.writeStmts_writeStmts each.flatten inner)
    | none =>
      dsimp only
      rw [emits_writeBody]
      exact congrArg Except.ok (w.writeStmts_writeStmts each.flatten _)

/-- The calls write the request from the first label to the body as one list of statements. -/
theorem writeRestRequest_eq (w : Writer) :
    c.writeRestRequest m w = (restRequest m c).map w.writeStmts := by
  have hquery : ∀ (query : List (String × String)) (w : Writer),
      query.foldl (fun w q => w.writeStmt (addQuery q.1 (.literal q.2))) w =
        w.writeStmts (query.map fun q => addQuery q.1 (.literal q.2)) := by
    intro query w
    rw [← foldl_writeStmt, List.foldl_map]
  unfold writeRestRequest restRequest
  dsimp only
  cases (UriSegment.ofTemplate (UriTemplate.ofText c.http.uri).path.toList).mapError
    (UriSegment.Fault.error (UriTemplate.ofText c.http.uri).path c.operation.id) with
  | error err => rfl
  | ok segments =>
    simp only [bind_ok]
    rw [writePath_eq]
    cases c.path m segments with
    | error err => rfl
    | ok bound =>
      simp only [Except.map, bind_ok, hquery]
      simp only [provide_eq, writeStmt_eq, writeStmts_writeStmts]
      cases c.input with
      | none =>
        simp
        rfl
      | some input =>
        dsimp only
        rw [emits_writeInput]
        cases bindInput m input with
        | error err => rfl
        | ok members =>
          refine congrArg Except.ok ((w.writeStmts_writeStmts _ members).trans ?_)
          simp only [List.append_assoc]
          rfl

theorem writeRpcRequest_eq (w : Writer) : c.writeRpcRequest w = w.writeStmts (rpcRequest c) := by
  simp only [writeRpcRequest, provide_eq, writeStmt_eq, writeStmts_writeStmts]
  rfl

end Call

end ClientGen
