import ClientGen.Proofs.Codec.Outline
import ClientGen.Proofs.Protocol.Faults

/-!
# Requests in an outline

What binds the input of an operation to a request looks at the members of the input, and at what
these lead to. So requests are the same in an outline.
-/

namespace ClientGen

namespace Call

/-! ## Calls without documentation -/

/-- The call without the documentation of its operation and input. -/
def undocumented (c : Call) : Call := ⟨c.operation.undocumented, c.input.map .undocumented⟩

/-- The input of a call, if it has one, is a shape of the part. -/
def IsWithin (c : Call) (m : Model) (P : ShapeId → Prop) : Prop :=
  ∀ s, c.input = some s → m.IsWithin P s

section

variable (c : Call) (s : Shape) (e : Member)

@[simp] theorem destination_undocumented : destination e.undocumented = destination e := by
  simp [destination]

@[simp] theorem isBound_undocumented : isBound e.undocumented = isBound e := by
  simp [isBound]

@[simp] theorem isPayload_undocumented : isPayload e.undocumented = isPayload e := by
  simp [isPayload]

@[simp] theorem bindBody_undocumented (bound : List Member) :
    bindBody s.undocumented (bound.map .undocumented) = bindBody s bound := by
  simp [bindBody, Function.comp_def]

theorem labelMember?_undocumented (name : String) :
    c.undocumented.labelMember? name =
      (c.labelMember? name).map fun x => (x.1.undocumented, x.2.undocumented) := by
  unfold labelMember? undocumented
  cases c.input with
  | none => rfl
  | some input =>
    simp [List.find?_map, Function.comp_def]
    cases input.members.find? fun e => e.name == name && e.traits.isHttpLabel <;> rfl

theorem unusedLabel?_undocumented (segments : List UriSegment) :
    c.undocumented.unusedLabel? segments =
      (c.unusedLabel? segments).map fun x => (x.1.undocumented, x.2.undocumented) := by
  unfold unusedLabel? undocumented
  cases c.input with
  | none => rfl
  | some input =>
    simp [List.find?_map, Function.comp_def]
    cases input.members.find? fun e => e.traits.isHttpLabel && !hasLabel segments e.name <;> rfl

end

end Call

namespace Model.IsOutline

open Call

variable {k m : Model} {P Q : ShapeId → Prop}

/-! ## Scalars and lists -/

theorem scalarText (h : k.IsOutline m P Q) {target : ShapeId} (htarget : P target) (value : Expr)
    (byRef : Bool) :
    Call.scalarText k target value byRef = Call.scalarText m target value byRef := by
  refine h.resolve_congr htarget fun s _ => ?_
  rw [Shape.kind_undocumented]
  cases s.kind <;> rfl

/-- What goes on with the elements of a list, or with the value itself, is the same if it is for
elements of the part. -/
theorem listElement_congr {α : Type} (h : k.IsOutline m P Q) {target : ShapeId}
    (htarget : P target) {f g : Option (Member × Bool) → Except GenerationError α}
    (hsome : ∀ e sparse, P e.target → f (some (e.undocumented, sparse)) = g (some (e, sparse)))
    (hnone : f none = g none) : listElement? k target >>= f = listElement? m target >>= g := by
  unfold listElement?
  rw [bind_assoc, bind_assoc]
  refine h.resolve_congr htarget fun s hs => ?_
  rw [Shape.kind_undocumented, Shape.traits_undocumented, Traits.isSparse_undocumented]
  cases hkind : s.kind with
  | list e | set e => exact hsome e _ (h.target_of_mem hs (by simp [Shape.edges, hkind]))
  | _ => exact hnone

/-! ## Labels -/

theorem bindLabel (h : k.IsOutline m P Q) {c : Call} (hc : c.IsWithin m P) (name : String)
    (greedy : Bool) :
    Call.bindLabel k c.undocumented name greedy = Call.bindLabel m c name greedy := by
  unfold Call.bindLabel
  rw [labelMember?_undocumented]
  cases hmember : c.labelMember? name with
  | none => rfl
  | some found =>
    obtain ⟨input, e⟩ := found
    obtain ⟨hinput, he⟩ := labelMember?_eq_some.1 hmember
    have hwithin : m.IsWithin P input := hc input hinput
    have htarget : P e.target := h.target_of_mem_members hwithin he.mem
    rw [Option.map_some]
    dsimp only
    rw [Shape.id_undocumented, h.memberSymbol _ hwithin.mem htarget, Member.target_undocumented,
      h.scalarText htarget, h.scalarText htarget]
    rfl

theorem bindLabels (h : k.IsOutline m P Q) {c : Call} (hc : c.IsWithin m P)
    (segments : List UriSegment) :
    Call.bindLabels k c.undocumented segments = Call.bindLabels m c segments := by
  induction segments with
  | nil => rfl
  | cons segment rest ih =>
    cases segment with
    | literal _ => exact ih
    | label name greedy =>
      rw [Call.bindLabels, Call.bindLabels, h.bindLabel hc, ih]

theorem path (h : k.IsOutline m P Q) {c : Call} (hc : c.IsWithin m P)
    (segments : List UriSegment) : c.undocumented.path k segments = c.path m segments := by
  unfold Call.path
  rw [h.bindLabels hc, unusedLabel?_undocumented]
  cases c.unusedLabel? segments <;> rfl

/-! ## Members -/

section

variable {input : Shape} {e : Member}

theorem withMember_congr (h : k.IsOutline m P Q) (hinput : m.IsWithin P input)
    (he : e ∈ input.members) (role : String)
    {f g : Expr → Bool → Except GenerationError (List Stmt)}
    (hfg : ∀ value byRef, f value byRef = g value byRef) :
    withMember k input.undocumented e.undocumented role f = withMember m input e role g := by
  obtain rfl : f = g := funext fun value => funext fun byRef => hfg value byRef
  unfold withMember
  rw [Shape.id_undocumented, h.memberSymbol _ hinput.mem (h.target_of_mem_members hinput he)]
  rfl

theorem bindQuery (h : k.IsOutline m P Q) (hinput : m.IsWithin P input) (he : e ∈ input.members)
    (name : String) :
    Call.bindQuery k input.undocumented e.undocumented name = Call.bindQuery m input e name := by
  have htarget : P e.target := h.target_of_mem_members hinput he
  refine h.withMember_congr hinput he "query" fun value byRef => ?_
  refine h.listElement_congr htarget (fun element sparse helement => ?_) ?_
  · exact congrArg (· >>= _) (h.scalarText helement _ _)
  · exact congrArg (· >>= _) (h.scalarText htarget _ _)

theorem bindHeader (h : k.IsOutline m P Q) (hinput : m.IsWithin P input) (he : e ∈ input.members)
    (name : String) :
    Call.bindHeader k input.undocumented e.undocumented name = Call.bindHeader m input e name := by
  have htarget : P e.target := h.target_of_mem_members hinput he
  refine h.withMember_congr hinput he "header" fun value byRef => ?_
  refine h.listElement_congr htarget (fun element sparse helement => ?_) ?_
  · exact congrArg (· >>= _) (h.scalarText helement _ _)
  · exact congrArg (· >>= _) (h.scalarText htarget _ _)

theorem bindPayload (h : k.IsOutline m P Q) (hinput : m.IsWithin P input) (he : e ∈ input.members) :
    Call.bindPayload k input.undocumented e.undocumented = Call.bindPayload m input e := by
  have htarget : P e.target := h.target_of_mem_members hinput he
  refine h.resolve_congr htarget fun t _ => ?_
  rw [Shape.id_undocumented, h.memberSymbol _ hinput.mem htarget]
  refine bind_congr_of_ok fun symbol _ => ?_
  simp only [Shape.kind_undocumented, Member.target_undocumented, h.encode _ _ htarget]
  cases t.kind <;> rfl

theorem bindMember (h : k.IsOutline m P Q) (hinput : m.IsWithin P input) (he : e ∈ input.members) :
    Call.bindMember k input.undocumented e.undocumented = Call.bindMember m input e := by
  unfold Call.bindMember
  rw [destination_undocumented]
  cases destination e with
  | query name => exact h.bindQuery hinput he name
  | header name => exact h.bindHeader hinput he name
  | _ => rfl

theorem bindInput (h : k.IsOutline m P Q) (hinput : m.IsWithin P input) :
    Call.bindInput k input.undocumented = Call.bindInput m input := by
  unfold Call.bindInput
  have heach : (input.members.map .undocumented).mapM (Call.bindMember k input.undocumented) =
      input.members.mapM (Call.bindMember m input) :=
    mapM_map_congr fun e he => h.bindMember hinput he
  have hpayload : (input.members.map .undocumented).filter isPayload =
      (input.members.filter isPayload).map .undocumented := by
    simp [List.filter_map, Function.comp_def]
  have hbound : (input.members.map .undocumented).filter isBound =
      (input.members.filter isBound).map .undocumented := by
    simp [List.filter_map, Function.comp_def]
  rw [Shape.members_undocumented, heach, hpayload, hbound, bindBody_undocumented,
    List.getLast?_map]
  refine bind_congr_of_ok fun each _ => ?_
  cases hlast : (input.members.filter isPayload).getLast? with
  | none => rfl
  | some e =>
    have he : e ∈ input.members := List.mem_of_mem_filter (List.mem_of_getLast? hlast)
    rw [Option.map_some]
    dsimp only
    rw [h.bindPayload hinput he]

end

/-! ## Requests -/

/-- The request that is made for a call does not depend on documentation, or on what the call does
not lead to. -/
theorem restRequest (h : k.IsOutline m P Q) {c : Call} (hc : c.IsWithin m P) :
    Call.restRequest k c.undocumented = Call.restRequest m c := by
  unfold Call.restRequest
  refine bind_congr_of_ok fun segments _ => ?_
  rw [h.path hc]
  refine bind_congr_of_ok fun labels _ => ?_
  have hmutable : (c.undocumented.input.any fun input =>
      input.members.any fun e => !e.traits.isHttpLabel) =
      c.input.any fun input => input.members.any fun e => !e.traits.isHttpLabel := by
    simp [Call.undocumented, Option.any_map, Function.comp_def]
  rw [hmutable]
  cases hinput : c.input with
  | none =>
    have hnone : c.undocumented.input = none := by rw [Call.undocumented, hinput]; rfl
    rw [hnone]
    rfl
  | some input =>
    have hsome : c.undocumented.input = some input.undocumented := by
      rw [Call.undocumented, hinput]
      rfl
    rw [hsome]
    dsimp only
    rw [h.bindInput (hc input hinput)]
    rfl

theorem rpcRequest_undocumented (c : Call) : rpcRequest c.undocumented = rpcRequest c := by
  simp [rpcRequest, Call.undocumented]

end Model.IsOutline

end ClientGen
