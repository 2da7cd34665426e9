import ClientGen.Proofs.Graph.Boxing
import ClientGen.Proofs.Graph.Reached
import ClientGen.Proofs.Graph.Soundness
import ClientGen.Proofs.Model.Documentation

/-!
# Outlines of a part of a model

A part of a model is a set of shapes and operations that no reference leaves. An outline of the part
is a model that has the shapes and operations of the part without their documentation, whatever else
it has. What the checks and the walks over a part give can be read off an outline: they look at
nothing outside the part, and at no documentation. So models with a common outline have the same
results there.
-/

namespace ClientGen

namespace Model

/-- `k` has the shapes `P` and the operations `Q` of `m`, which refer only to one another, without
their documentation. -/
structure IsOutline (k m : Model) (P Q : ShapeId → Prop) : Prop where
  shape : ∀ id, P id → k.shape? id = (m.shape? id).map .undocumented
  target : ∀ id s, P id → m.shape? id = some s → ∀ e ∈ s.edges, P e.target
  operation : ∀ op, Q op → k.operation? op = (m.operation? op).map .undocumented
  role : ∀ op o, Q op → m.operation? op = some o →
    ∀ io, o.input = some io ∨ o.output = some io → P io

/-- The shape is the one that is defined under its identifier, which is one of the part. -/
structure IsWithin (m : Model) (P : ShapeId → Prop) (s : Shape) : Prop where
  mem : P s.id
  shape : m.shape? s.id = some s

theorem isWithin_of_shape? {m : Model} {P : ShapeId → Prop} {id : ShapeId} {s : Shape} (hid : P id)
    (hs : m.shape? id = some s) : m.IsWithin P s := by
  obtain rfl := id_of_shape? hs
  exact ⟨hid, hs⟩

/-- A model without documentation outlines the whole of it. -/
theorem isOutline_undocumented (m : Model) :
    m.undocumented.IsOutline m (fun _ => True) fun _ => True where
  shape := fun id _ => m.shape?_undocumented id
  target := fun _ _ _ _ _ _ => trivial
  operation := fun op _ => m.operation?_undocumented op
  role := fun _ _ _ _ _ _ => trivial

namespace IsOutline

variable {k m : Model} {P Q : ShapeId → Prop}

/-! ## Lookups -/

theorem resolveShape (h : k.IsOutline m P Q) {id : ShapeId} (hid : P id) (from_ : Referrer) :
    k.resolveShape id from_ = (m.resolveShape id from_).map .undocumented := by
  unfold Model.resolveShape
  rw [h.shape id hid]
  cases m.shape? id <;> rfl

theorem shape?_eq_none (h : k.IsOutline m P Q) {id : ShapeId} (hid : P id)
    (hs : m.shape? id = none) : k.shape? id = none := by
  rw [h.shape id hid, hs]
  rfl

theorem shape?_eq_some (h : k.IsOutline m P Q) {id : ShapeId} (hid : P id) {s : Shape}
    (hs : m.shape? id = some s) : k.shape? id = some s.undocumented := by
  rw [h.shape id hid, hs]
  rfl

theorem target_of_mem (h : k.IsOutline m P Q) {s : Shape} (hs : m.IsWithin P s) {e : Member}
    (he : e ∈ s.edges) : P e.target :=
  h.target s.id s hs.mem hs.shape e he

theorem target_of_mem_members (h : k.IsOutline m P Q) {s : Shape} (hs : m.IsWithin P s)
    {e : Member} (he : e ∈ s.members) : P e.target :=
  h.target_of_mem hs (Shape.mem_edges_of_mem_members he)

/-- A computation with a shape of the part, and one with its outline, are the same if they are once
the shape is known. -/
theorem resolve_congr {α : Type} (h : k.IsOutline m P Q) {id : ShapeId} (hid : P id)
    {from_ : Referrer} {f g : Shape → Except GenerationError α}
    (hfg : ∀ s, m.IsWithin P s → f s.undocumented = g s) :
    k.resolveShape id from_ >>= f = m.resolveShape id from_ >>= g := by
  rw [h.resolveShape hid, map_bind_eq]
  exact bind_congr_of_ok fun s hs => hfg s (isWithin_of_shape? hid (resolveShape_eq_ok.1 hs))

/-! ## The walk over the shapes -/

theorem edgeVisits_undocumented (s : Shape) : edgeVisits s.undocumented = edgeVisits s := by
  simp [edgeVisits, Function.comp_def]

theorem closure (h : k.IsOutline m P Q) {seen : List ShapeId} {pending : List Visit}
    (hpending : ∀ v ∈ pending, P v.1) : k.closure seen pending = m.closure seen pending := by
  induction seen, pending using closure.induct m with
  | case1 seen => rw [closure_nil, closure_nil]
  | case2 seen id from_ pending hseen ih =>
    rw [closure_seen hseen, closure_seen hseen]
    exact ih fun v hv => hpending v (List.mem_cons_of_mem _ hv)
  | case3 seen id from_ pending hnew hs =>
    have hid : P id := hpending _ List.mem_cons_self
    rw [closure_undefined hnew hs, closure_undefined hnew (h.shape?_eq_none hid hs)]
  | case4 seen id from_ pending hnew s hs ih =>
    have hid : P id := hpending _ List.mem_cons_self
    rw [closure_new hnew hs, closure_new hnew (h.shape?_eq_some hid hs), edgeVisits_undocumented]
    refine ih fun v hv => ?_
    rcases List.mem_append.1 hv with hv | hv
    · obtain ⟨e, he, rfl⟩ := List.mem_map.1 (List.mem_reverse.1 hv)
      exact h.target id s hid hs e he
    · exact hpending v (List.mem_cons_of_mem _ hv)

theorem serviceVisits (h : k.IsOutline m P Q) {s : Service} (hs : ∀ op ∈ s.operations, Q op) :
    k.serviceVisits s.undocumented = m.serviceVisits s := by
  unfold Model.serviceVisits
  refine congrArg List.reverse (List.flatMap_congr fun op hop => ?_)
  rw [h.operation op (hs op hop)]
  cases m.operation? op <;> rfl

theorem pending_of_mem_serviceVisits (h : k.IsOutline m P Q) {s : Service}
    (hs : ∀ op ∈ s.operations, Q op) : ∀ v ∈ m.serviceVisits s, P v.1 := by
  intro v hv
  obtain ⟨op, hop, hv⟩ := List.mem_flatMap.1 (List.mem_reverse.1 hv)
  cases ho : m.operation? op with
  | none =>
    rw [ho] at hv
    cases hv
  | some o =>
    rw [ho] at hv
    obtain ⟨io, hio, rfl⟩ := List.mem_map.1 hv
    exact h.role op o (hs op hop) ho io (by simpa using hio)

/-- The service is the one that is defined under its identifier, also in the outline, and lists
operations of the part. -/
structure HasService (k m : Model) (Q : ShapeId → Prop) (s : Service) : Prop where
  service : m.service? s.id = some s
  outline : k.service? s.id = some s.undocumented
  operations : ∀ op ∈ s.operations, Q op

theorem reachable (h : k.IsOutline m P Q) {s : Service} (hs : HasService k m Q s) :
    k.reachable s.id = m.reachable s.id := by
  rw [reachable_eq_closure hs.service, reachable_eq_closure hs.outline,
    h.serviceVisits hs.operations]
  exact h.closure (h.pending_of_mem_serviceVisits hs.operations)

/-! ## Which members are boxed -/

theorem isRecord (h : k.IsOutline m P Q) {id : ShapeId} (hid : P id) :
    k.isRecord id = m.isRecord id := by
  unfold Model.isRecord
  rw [h.shape id hid, Option.any_map]
  exact congrArg (fun f => (m.shape? id).any f) (funext Shape.isRecord_undocumented)

theorem recordTargets (h : k.IsOutline m P Q) {s : Shape} (hs : m.IsWithin P s) :
    k.recordTargets s.undocumented = m.recordTargets s := by
  have htargets : (s.members.map .undocumented).map Member.target = s.members.map Member.target :=
    List.map_map.trans rfl
  unfold Model.recordTargets
  rw [Shape.members_undocumented, htargets]
  refine List.filter_congr fun id hid => ?_
  obtain ⟨e, he, rfl⟩ := List.mem_map.1 hid
  exact h.isRecord (h.target_of_mem_members hs he)

theorem heldFrom (h : k.IsOutline m P Q) {seen pending : List ShapeId}
    (hpending : ∀ id ∈ pending, P id) : k.heldFrom seen pending = m.heldFrom seen pending := by
  induction seen, pending using heldFrom.induct m with
  | case1 seen => rw [heldFrom_nil, heldFrom_nil]
  | case2 seen id pending hseen ih =>
    rw [heldFrom_seen hseen, heldFrom_seen hseen]
    exact ih fun x hx => hpending x (List.mem_cons_of_mem _ hx)
  | case3 seen id pending hnew hs ih =>
    have hid : P id := hpending _ List.mem_cons_self
    rw [heldFrom_undefined hnew hs, heldFrom_undefined hnew (h.shape?_eq_none hid hs)]
    exact ih fun x hx => hpending x (List.mem_cons_of_mem _ hx)
  | case4 seen id pending hnew s hs ih =>
    have hid : P id := hpending _ List.mem_cons_self
    have hwithin : m.IsWithin P s := isWithin_of_shape? hid hs
    rw [heldFrom_new hnew hs, heldFrom_new hnew (h.shape?_eq_some hid hs),
      h.recordTargets hwithin]
    refine ih fun x hx => ?_
    rcases List.mem_append.1 hx with hx | hx
    · obtain ⟨e, he, rfl⟩ := List.mem_map.1 (List.mem_of_mem_filter hx)
      exact h.target_of_mem_members hwithin he
    · exact hpending x (List.mem_cons_of_mem _ hx)

theorem needsBox (h : k.IsOutline m P Q) {owner : ShapeId} (howner : P owner) (name : String) :
    k.needsBox owner name = m.needsBox owner name := by
  unfold Model.needsBox
  cases hs : m.shape? owner with
  | none => rw [h.shape?_eq_none howner hs]; rfl
  | some s =>
    have hwithin : m.IsWithin P s := isWithin_of_shape? howner hs
    rw [h.shape?_eq_some howner hs, Option.any_some, Option.any_some, Shape.members_undocumented,
      List.any_map]
    rw [Bool.eq_iff_iff, List.any_eq_true, List.any_eq_true]
    refine exists_congr fun e => and_congr_right fun he => ?_
    have htarget : P e.target := h.target_of_mem_members hwithin he
    have hheld : k.heldFrom [] [e.target] = m.heldFrom [] [e.target] :=
      h.heldFrom fun id hid => List.mem_singleton.1 hid ▸ htarget
    rw [Function.comp_apply, Member.name_undocumented, Member.target_undocumented,
      h.isRecord htarget, hheld]

end IsOutline

end Model

/-! ## The walk for cycles -/

namespace CycleKind

open Model

variable {c : CycleKind} {k m : Model} {P Q : ShapeId → Prop}

/-- The cycle goes along edges of shapes, and which of them does not depend on documentation, nor on
anything else that an outline leaves out. -/
structure FollowsOutline (c : CycleKind) (k m : Model) (P : ShapeId → Prop) : Prop where
  expands : ∀ s : Shape, c.expands s.undocumented = c.expands s
  edges : ∀ s : Shape, c.edges s.undocumented = (c.edges s).map .undocumented
  mem_edges : ∀ s, ∀ e ∈ c.edges s, e ∈ s.edges
  admits : ∀ s e, P e.target → c.admits k s.undocumented e.undocumented = c.admits m s e

theorem followsOutline_required (h : k.IsOutline m P Q) : required.FollowsOutline k m P where
  expands := Shape.isStructure_undocumented
  edges := fun s => by simp [required, List.filter_map, Function.comp_def]
  mem_edges := fun _ _ he => Shape.mem_edges_of_mem_members (List.mem_of_mem_filter he)
  admits := fun s e he => by
    change (k.resolveShape e.target (.member s.id e.name)).map Shape.isStructure =
      (m.resolveShape e.target (.member s.id e.name)).map Shape.isStructure
    rw [h.resolveShape he]
    cases m.resolveShape e.target (.member s.id e.name) <;> simp [Except.map]

theorem followsOutline_collection : collection.FollowsOutline k m P where
  expands := Shape.isCollection_undocumented
  edges := Shape.edges_undocumented
  mem_edges := fun _ _ he => he
  admits := fun _ _ _ => rfl

mutual

/-- A walk along edges that an outline keeps ends the same way in the outline and in the model. -/
theorem walk_outline (h : k.IsOutline m P Q) (hc : c.FollowsOutline k m P)
    {path done : List ShapeId} {id : ShapeId} (hid : P id) :
    c.walk k path done id = c.walk m path done id := by
  by_cases hdone : id ∈ done
  · rw [walk_done hdone, walk_done hdone]
  by_cases hpath : id ∈ path
  · rw [walk_cycle hdone hpath, walk_cycle hdone hpath]
  cases hs : m.shape? id with
  | none => rw [walk_undefined hdone hpath hs,
      walk_undefined hdone hpath (h.shape?_eq_none hid hs)]
  | some s =>
    have hs' := h.shape?_eq_some hid hs
    have hfewer : m.unseen (path ++ [id]) < m.unseen path :=
      unseen_lt hs hpath (by simp) fun _ h => by simp [h]
    cases hexpands : c.expands s with
    | false =>
      rw [walk_leaf hdone hpath hs hexpands,
        walk_leaf hdone hpath hs' ((hc.expands s).trans hexpands)]
    | true =>
      rw [walk_expand hdone hpath hs hexpands,
        walk_expand hdone hpath hs' ((hc.expands s).trans hexpands), hc.edges]
      exact congrArg _ (walkEdges_outline h hc fun e he =>
        h.target id s hid hs e (hc.mem_edges s e he))
termination_by (m.unseen path, 0)
decreasing_by
  exact Prod.Lex.left _ _ (by assumption)

theorem walkEdges_outline (h : k.IsOutline m P Q) (hc : c.FollowsOutline k m P)
    {path done : List ShapeId} {s : Shape} {edges : List Member}
    (hedges : ∀ e ∈ edges, P e.target) :
    c.walkEdges k path done s.undocumented (edges.map .undocumented) =
      c.walkEdges m path done s edges := by
  cases edges with
  | nil => rw [List.map_nil, walkEdges_nil, walkEdges_nil]
  | cons e rest =>
    have he : P e.target := hedges e List.mem_cons_self
    have hrest : ∀ e ∈ rest, P e.target := fun e he => hedges e (List.mem_cons_of_mem _ he)
    have hadmits' := hc.admits s e he
    rw [List.map_cons]
    cases hadmits : c.admits m s e with
    | error err => rw [walkEdges_error hadmits, walkEdges_error (hadmits'.trans hadmits)]
    | ok admitted =>
      cases admitted with
      | false =>
        rw [walkEdges_skip hadmits, walkEdges_skip (hadmits'.trans hadmits)]
        exact walkEdges_outline h hc hrest
      | true =>
        rw [walkEdges_follow hadmits, walkEdges_follow (hadmits'.trans hadmits),
          Member.target_undocumented, walk_outline h hc he]
        exact bind_congr_of_ok fun done _ => walkEdges_outline h hc hrest
termination_by (m.unseen path, edges.length + 1)
decreasing_by
  all_goals exact Prod.Lex.right _ (by subst_vars; simp)

end

end CycleKind

/-! ## The checks -/

namespace Model.IsOutline

variable {k m : Model} {P Q : ShapeId → Prop}

theorem checkCycles (h : k.IsOutline m P Q) {requiredDone collectionDone ids : List ShapeId}
    (hids : ∀ id ∈ ids, P id) : k.checkCycles requiredDone collectionDone ids =
      m.checkCycles requiredDone collectionDone ids := by
  induction ids generalizing requiredDone collectionDone with
  | nil => rfl
  | cons id ids ih =>
    have hid : P id := hids id List.mem_cons_self
    rw [Model.checkCycles, Model.checkCycles,
      CycleKind.walk_outline h (CycleKind.followsOutline_required h) hid,
      CycleKind.walk_outline h CycleKind.followsOutline_collection hid]
    refine bind_congr_of_ok fun requiredDone _ => bind_congr_of_ok fun collectionDone _ => ?_
    exact ih fun id hid => hids id (List.mem_cons_of_mem _ hid)

theorem checkMapKey (h : k.IsOutline m P Q) {s : Shape} (hs : m.IsWithin P s) :
    k.checkMapKey s.undocumented = m.checkMapKey s := by
  unfold Model.checkMapKey
  rw [Shape.kind_undocumented]
  cases hkind : s.kind with
  | map key value =>
    have hkey : P key.target := h.target_of_mem hs (by simp [Shape.edges, hkind])
    refine h.resolve_congr hkey fun t _ => ?_
    rw [Shape.isKey_undocumented]
    rfl
  | _ => rfl

theorem checkShape (h : k.IsOutline m P Q) {id : ShapeId} (hid : P id) :
    k.checkShape id = m.checkShape id := by
  refine h.resolve_congr hid fun s hs => ?_
  rw [Shape.checkMembers_undocumented, h.checkMapKey hs]

theorem checkRole (h : k.IsOutline m P Q) (op : ShapeId) (role : Role) {io : Option ShapeId}
    (hio : ∀ id, io = some id → P id) : k.checkRole op role io = m.checkRole op role io := by
  cases io with
  | none => rfl
  | some id =>
    refine h.resolve_congr (hio id rfl) fun s _ => ?_
    rw [Shape.isStructure_undocumented]

theorem checkOperation (h : k.IsOutline m P Q) (service : ShapeId) {op : ShapeId} (hop : Q op) :
    k.checkOperation service op = m.checkOperation service op := by
  unfold Model.checkOperation
  rw [h.operation op hop]
  cases ho : m.operation? op with
  | none => rfl
  | some o =>
    have hrole := h.role op o hop ho
    change (k.checkRole op .input o.input >>= fun _ => k.checkRole op .output o.output) = _
    rw [h.checkRole op .input fun id hid => hrole id (.inl hid),
      h.checkRole op .output fun id hid => hrole id (.inr hid)]

/-- What a service needs is in the part if the operations that it lists are. -/
theorem mem_of_needs (h : k.IsOutline m P Q) {s : Service} (hs : ∀ op ∈ s.operations, Q op)
    {id : ShapeId} (hid : m.Needs s id) : P id := by
  induction hid with
  | role hrole =>
    obtain ⟨hop, o, ho, hio⟩ := hrole
    exact h.role _ o (hs _ hop) ho _ hio
  | edge _ ht he ih => exact h.target _ _ ih ht _ he

theorem mem_of_reachable (h : k.IsOutline m P Q) {s : Service} (hs : HasService k m Q s)
    {ids : List ShapeId} (hids : m.reachable s.id = .ok ids) : ∀ id ∈ ids, P id := fun id hid =>
  h.mem_of_needs hs.operations (((reachable_ok_iff hs.service).2.1 ids hids).2 id |>.1 hid)

/-- The checks of a service that lists operations of the part give on an outline what they give on
the model. -/
theorem validate (h : k.IsOutline m P Q) {s : Service} (hs : HasService k m Q s) :
    k.validate s.id = m.validate s.id := by
  have hservice : m.resolveService s.id = .ok s := resolveService_eq_ok.2 hs.service
  have houtline : k.resolveService s.id = .ok s.undocumented := resolveService_eq_ok.2 hs.outline
  have hoperations : s.operations.forM (k.checkOperation s.id) =
      s.operations.forM (m.checkOperation s.id) :=
    forM_congr_of_mem fun op hop => h.checkOperation s.id (hs.operations op hop)
  unfold Model.validate
  rw [ok_bind hservice, ok_bind houtline]
  change (s.operations.forM (k.checkOperation s.id) >>= fun _ => _) = _
  rw [hoperations, h.reachable hs]
  refine bind_congr_of_ok fun _ _ => bind_congr_of_ok fun ids hids => ?_
  have hmem := h.mem_of_reachable hs hids
  rw [forM_congr_of_mem fun id hid => h.checkShape (hmem id hid), h.checkCycles hmem]

end Model.IsOutline

end ClientGen
