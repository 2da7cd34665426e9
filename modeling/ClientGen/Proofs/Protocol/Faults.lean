import ClientGen.Proofs.Codec.Faults
import ClientGen.Proofs.Protocol.Paths

/-!
# What can be wrong with a request

Binding the input of an operation to a request can fail at the defaults of members, at labels that
do not fit the members of the input, and at members that have no text. In a sound model it fails at
nothing else.
-/

namespace ClientGen

open GenerationError (IsDefaultFault)

/-- A default without an expression, or a binding that no request can have. -/
inductive GenerationError.IsRequestFault : GenerationError → Prop
  | unsupportedDefault (value : Json.Value) (shape : ShapeId) :
    IsRequestFault (.config (.unsupportedDefault value shape))
  | unterminatedLabel (template : String) (operation : ShapeId) :
    IsRequestFault (.config (.unterminatedLabel template operation))
  | emptyLabel (template : String) (operation : ShapeId) :
    IsRequestFault (.config (.emptyLabel template operation))
  | unboundLabel (label : String) (operation : ShapeId) :
    IsRequestFault (.config (.unboundLabel label operation))
  | unusedLabel (member : String) (input : ShapeId) :
    IsRequestFault (.config (.unusedLabel member input))
  | notScalar (target : ShapeId) : IsRequestFault (.config (.notScalar target))

open GenerationError (IsRequestFault)

theorem GenerationError.IsDefaultFault.isRequestFault {e : GenerationError}
    (h : IsDefaultFault e) : IsRequestFault e := by
  cases h with
  | intro value shape => exact .unsupportedDefault value shape

namespace Call

variable {m : Model} {ids : List ShapeId}

/-- The input of the call is one of the shapes. -/
def HasInputIn (c : Call) (m : Model) (ids : List ShapeId) : Prop :=
  ∀ input, c.input = some input → m.IsAmong ids input

theorem memberSymbol_faults (h : m.IsSound ids) {input : Shape} (hinput : m.IsAmong ids input)
    {e : Member} (he : e ∈ input.members) :
    FailsOnly IsRequestFault (m.memberSymbol modelNamespace input.id e) :=
  (Model.memberSymbol_faults h hinput he).mono fun _ hfault => hfault.isRequestFault

/-! ## Scalars -/

theorem scalarText_faults (h : m.IsClosed ids) {target : ShapeId} (htarget : target ∈ ids)
    (value : Expr) (byRef : Bool) : FailsOnly IsRequestFault (scalarText m target value byRef) := by
  obtain ⟨s, hs⟩ := h.defined target htarget
  unfold scalarText
  rw [ok_bind (Model.resolveShape_eq_ok.2 hs)]
  dsimp only
  split
  · exact .ok _
  · exact .ok _
  · exact .ok _
  · exact .ok _
  · exact .error (.notScalar target)

/-- What is done with the elements of a list or with the value itself can look up the targets. -/
theorem listElement?_faults (h : m.IsClosed ids) {target : ShapeId} (htarget : target ∈ ids)
    {α : Type} {f : Option (Member × Bool) → Except GenerationError α}
    (hsome : ∀ element sparse, element.target ∈ ids →
      FailsOnly IsRequestFault (f (some (element, sparse))))
    (hnone : FailsOnly IsRequestFault (f none)) :
    FailsOnly IsRequestFault (listElement? m target >>= f) := by
  obtain ⟨s, hs⟩ := h.defined target htarget
  have hedges := h.edges target htarget s hs
  have helement : ∃ element, listElement? m target = .ok element ∧
      ∀ e sparse, element = some (e, sparse) → e ∈ s.edges := by
    unfold listElement?
    rw [ok_bind (Model.resolveShape_eq_ok.2 hs)]
    split
    case h_1 e hkind | h_2 e hkind =>
      refine ⟨_, rfl, fun e' sparse heq => ?_⟩
      cases heq
      simp [Shape.edges, hkind]
    case h_3 =>
      refine ⟨none, rfl, fun e sparse heq => ?_⟩
      cases heq
  obtain ⟨element, hlookup, hin⟩ := helement
  rw [ok_bind hlookup]
  cases element with
  | none => exact hnone
  | some pair => exact hsome pair.1 pair.2 (hedges _ (hin pair.1 pair.2 rfl))

/-! ## Labels -/

theorem bindLabel_faults (h : m.IsSound ids) {c : Call} (hc : c.HasInputIn m ids) (name : String)
    (greedy : Bool) : FailsOnly IsRequestFault (bindLabel m c name greedy) := by
  unfold bindLabel
  split
  · exact .error (.unboundLabel name c.operation.id)
  · rename_i input e hmember
    obtain ⟨hinput, he⟩ := labelMember?_eq_some.1 hmember
    have htarget : e.target ∈ ids := (hc input hinput).target h.toIsClosed he.mem
    refine (memberSymbol_faults h (hc input hinput) he.mem).bind fun symbol _ => ?_
    dsimp only
    split
    · exact (scalarText_faults h.toIsClosed htarget _ _).bind fun t _ => .ok _
    · exact (scalarText_faults h.toIsClosed htarget _ _).bind fun t _ => .ok _

theorem bindLabels_faults (h : m.IsSound ids) {c : Call} (hc : c.HasInputIn m ids)
    (segments : List UriSegment) : FailsOnly IsRequestFault (bindLabels m c segments) := by
  induction segments with
  | nil => exact .ok _
  | cons segment rest ih =>
    cases segment with
    | literal text => exact ih
    | label name greedy =>
      rw [bindLabels]
      refine (bindLabel_faults h hc _ greedy).bind fun bound _ => ?_
      exact ih.bind fun bindings _ => .ok _

theorem path_faults (h : m.IsSound ids) {c : Call} (hc : c.HasInputIn m ids)
    (segments : List UriSegment) : FailsOnly IsRequestFault (path m c segments) := by
  unfold path
  refine (bindLabels_faults h hc segments).bind fun bound _ => ?_
  dsimp only
  split
  · rename_i input e _
    exact .error (.unusedLabel e.name input.id)
  · split
    · exact .ok _
    · exact .ok _

/-! ## Members -/

variable {input : Shape} {e : Member}

theorem withMember_faults (h : m.IsSound ids) (hinput : m.IsAmong ids input)
    (he : e ∈ input.members) (role : String)
    {body : Expr → Bool → Except GenerationError (List Stmt)}
    (hbody : ∀ value byRef, FailsOnly IsRequestFault (body value byRef)) :
    FailsOnly IsRequestFault (withMember m input e role body) := by
  unfold withMember
  refine (memberSymbol_faults h hinput he).bind fun symbol _ => ?_
  split
  · exact (hbody _ _).bind fun stmts _ => .ok _
  · exact hbody _ _

theorem bindQuery_faults (h : m.IsSound ids) (hinput : m.IsAmong ids input)
    (he : e ∈ input.members) (name : String) :
    FailsOnly IsRequestFault (bindQuery m input e name) := by
  have htarget : e.target ∈ ids := hinput.target h.toIsClosed he
  unfold bindQuery
  refine withMember_faults h hinput he "query" fun value byRef => ?_
  refine listElement?_faults h.toIsClosed htarget (fun element sparse helement => ?_) ?_
  · exact (scalarText_faults h.toIsClosed helement _ _).bind fun t _ => .ok _
  · exact (scalarText_faults h.toIsClosed htarget _ _).bind fun t _ => .ok _

theorem bindHeader_faults (h : m.IsSound ids) (hinput : m.IsAmong ids input)
    (he : e ∈ input.members) (name : String) :
    FailsOnly IsRequestFault (bindHeader m input e name) := by
  have htarget : e.target ∈ ids := hinput.target h.toIsClosed he
  unfold bindHeader
  refine withMember_faults h hinput he "header" fun value byRef => ?_
  refine listElement?_faults h.toIsClosed htarget (fun element sparse helement => ?_) ?_
  · exact (scalarText_faults h.toIsClosed helement _ _).bind fun t _ => .ok _
  · exact (scalarText_faults h.toIsClosed htarget _ _).bind fun t _ => .ok _

theorem bindPayload_faults (h : m.IsSound ids) (hinput : m.IsAmong ids input)
    (he : e ∈ input.members) : FailsOnly IsRequestFault (bindPayload m input e) := by
  have htarget : e.target ∈ ids := hinput.target h.toIsClosed he
  obtain ⟨target, hs⟩ := h.defined e.target htarget
  unfold bindPayload
  rw [ok_bind (Model.resolveShape_eq_ok.2 hs)]
  refine (memberSymbol_faults h hinput he).bind fun symbol _ => ?_
  dsimp only
  have hfinish : ∀ stmts : List Stmt, FailsOnly IsRequestFault (if symbol.nullable = true then
      (pure [.ifLet (.some ((CodecPath.ofMember e.name).ofRole "present")) (place e).borrow stmts] :
        Except GenerationError (List Stmt)) else pure stmts) := by
    intro stmts
    split
    · exact .ok _
    · exact .ok _
  split
  · exact hfinish _
  · exact hfinish _
  · exact hfinish _
  · exact hfinish _
  · obtain ⟨inner, hinner⟩ := Model.encode_ok h htarget (CodecPath.ofMember e.name) _ _
    rw [ok_bind hinner]
    exact hfinish _

theorem bindMember_faults (h : m.IsSound ids) (hinput : m.IsAmong ids input)
    (he : e ∈ input.members) : FailsOnly IsRequestFault (bindMember m input e) := by
  unfold bindMember
  split
  · exact bindQuery_faults h hinput he _
  · exact bindHeader_faults h hinput he _
  · exact .ok []
  · exact .ok []
  · exact .ok []

/-! ## Whole requests -/

theorem bindInput_faults (h : m.IsSound ids) (hinput : m.IsAmong ids input) :
    FailsOnly IsRequestFault (bindInput m input) := by
  unfold bindInput
  refine FailsOnly.bind (.mapM fun e he => bindMember_faults h hinput he) fun each _ => ?_
  split
  · rename_i e hlast
    have he : e ∈ input.members := (List.mem_filter.1 (List.mem_of_getLast? hlast)).1
    exact (bindPayload_faults h hinput he).bind fun stmts _ => .ok _
  · exact .ok _

/-- Binding a request by traits fails at nothing but defaults and bindings. -/
theorem restRequest_faults (h : m.IsSound ids) {c : Call} (hc : c.HasInputIn m ids) :
    FailsOnly IsRequestFault (restRequest m c) := by
  unfold restRequest
  refine FailsOnly.bind (.mapError (fun fault => ?_) _) fun segments _ => ?_
  · cases fault with
    | unterminated => exact .unterminatedLabel _ c.operation.id
    | nameless => exact .emptyLabel _ c.operation.id
  · refine (path_faults h hc segments).bind fun bound _ => ?_
    dsimp only
    split
    · exact .ok _
    · rename_i input hinput
      exact (bindInput_faults h (hc input hinput)).bind fun members _ => .ok _

end Call

end ClientGen
