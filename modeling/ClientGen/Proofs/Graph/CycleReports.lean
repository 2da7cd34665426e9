import ClientGen.Proofs.Graph.Soundness
import ClientGen.Proofs.Order.Acyclic

/-!
# What a failing walk for cycles reports

The path by which a walk comes to a shape goes along edges. So where it comes to a shape of its path,
what it reports is a closed walk. Among shapes that no edge leaves nothing else can go wrong: a
model that is sound up to its cycles is accepted, or rejected with one of them.
-/

namespace ClientGen

open Relation

namespace CycleKind

variable {k : CycleKind} {m : Model} {ids : List ShapeId}

/-- Shapes on which a walk can come to an undefined shape neither by an edge nor by looking at one. -/
structure IsWalkable (k : CycleKind) (m : Model) (ids : List ShapeId) : Prop where
  defined : ∀ id ∈ ids, ∃ s, m.shape? id = some s
  edges : ∀ id ∈ ids, ∀ s, m.shape? id = some s → k.expands s = true → ∀ e ∈ k.edges s,
    e.target ∈ ids ∧ ∃ admitted, k.admits m s e = .ok admitted

/-- A report of a closed walk of the kind among some shapes. -/
inductive IsReport (k : CycleKind) (m : Model) (ids : List ShapeId) : GenerationError → Prop
  | intro {path : List ShapeId} (walk : IsClosedWalk (k.Edge m) path)
    (mem : ∀ id ∈ path, id ∈ ids) : IsReport k m ids (.invalidGraph k.fault path)

theorem isWalkable_required (h : m.IsClosed ids) : required.IsWalkable m ids := by
  refine ⟨h.defined, fun id hid s hs _ e he => ?_⟩
  have hmember : e ∈ s.members := (List.mem_filter.1 he).1
  have htarget := h.edges id hid s hs e (Shape.mem_edges_of_mem_members hmember)
  obtain ⟨t, ht, -⟩ := h.resolveShape htarget (.member s.id e.name)
  exact ⟨htarget, t.isStructure, map_eq_ok.2 ⟨t, ht, rfl⟩⟩

theorem isWalkable_collection (h : m.IsClosed ids) : collection.IsWalkable m ids :=
  ⟨h.defined, fun id hid s hs _ e he => ⟨h.edges id hid s hs e he, true, rfl⟩⟩

/-! ## The walk -/

mutual

/-- A walk along a path of edges fails only with a report. -/
theorem walk_faults (h : k.IsWalkable m ids) {path done : List ShapeId} {id : ShapeId}
    (hids : ∀ x ∈ path ++ [id], x ∈ ids) (hchain : (path ++ [id]).IsChain (k.Edge m)) :
    FailsOnly (k.IsReport m ids) (k.walk m path done id) := by
  by_cases hdone : id ∈ done
  · rw [walk_done hdone]
    exact .ok done
  by_cases hpath : id ∈ path
  · rw [walk_cycle hdone hpath]
    refine .error (.intro (.of_revisit hchain hpath) fun x hx => hids x ?_)
    rcases List.mem_append.1 hx with hx | hx
    · exact List.mem_append_left _ ((List.dropWhile_sublist _).mem hx)
    · exact List.mem_append_right _ hx
  obtain ⟨s, hs⟩ := h.defined id (hids id (by simp))
  cases hexpands : k.expands s with
  | false =>
    rw [walk_leaf hdone hpath hs hexpands]
    exact .ok _
  | true =>
    have hfewer : m.unseen (path ++ [id]) < m.unseen path :=
      Model.unseen_lt hs hpath (by simp) fun _ hx => by simp [hx]
    rw [walk_expand hdone hpath hs hexpands]
    exact (walkEdges_faults h hids hchain hs hexpands fun _ he => he).map
termination_by (m.unseen path, 0)
decreasing_by
  exact Prod.Lex.left _ _ (by assumption)

/-- Walks along edges of the last shape of a path fail only with a report. -/
theorem walkEdges_faults (h : k.IsWalkable m ids) {path done : List ShapeId} {id : ShapeId}
    (hids : ∀ x ∈ path ++ [id], x ∈ ids) (hchain : (path ++ [id]).IsChain (k.Edge m)) {s : Shape}
    (hs : m.shape? id = some s) (hexpands : k.expands s = true) {edges : List Member}
    (hedges : ∀ e ∈ edges, e ∈ k.edges s) :
    FailsOnly (k.IsReport m ids) (k.walkEdges m (path ++ [id]) done s edges) := by
  cases edges with
  | nil =>
    rw [walkEdges_nil]
    exact .ok done
  | cons e rest =>
    have he : e ∈ k.edges s := hedges e List.mem_cons_self
    obtain ⟨htarget, admitted, hadmits⟩ := h.edges id (hids id (by simp)) s hs hexpands e he
    have hrest : ∀ x ∈ rest, x ∈ k.edges s := fun x hx => hedges x (List.mem_cons_of_mem _ hx)
    cases admitted with
    | false =>
      rw [walkEdges_skip hadmits]
      exact walkEdges_faults h hids hchain hs hexpands hrest
    | true =>
      have hedge : k.Edge m id e.target := ⟨s, hs, hexpands, e, he, hadmits, rfl⟩
      rw [walkEdges_follow hadmits]
      refine FailsOnly.bind (walk_faults h (fun x hx => ?_) ?_) fun done' _ =>
        walkEdges_faults h hids hchain hs hexpands hrest
      · rcases List.mem_append.1 hx with hx | hx
        · exact hids x hx
        · exact List.mem_singleton.1 hx ▸ htarget
      · rw [List.append_assoc]
        exact List.isChain_append_cons_cons.2 ⟨hchain, hedge, .singleton _⟩
termination_by (m.unseen (path ++ [id]), edges.length + 1)
decreasing_by
  all_goals exact Prod.Lex.right _ (by subst_vars; simp)

end

end CycleKind

namespace Model

variable {m : Model} {ids : List ShapeId}

open CycleKind

/-- The walks from some shapes fail only with a report of either kind. -/
theorem checkCycles_faults (h : m.IsClosed ids) {requiredDone collectionDone roots : List ShapeId}
    (hroots : ∀ id ∈ roots, id ∈ ids) :
    FailsOnly (fun e => required.IsReport m ids e ∨ collection.IsReport m ids e)
      (m.checkCycles requiredDone collectionDone roots) := by
  induction roots generalizing requiredDone collectionDone with
  | nil => exact .ok ()
  | cons id roots ih =>
    have hid : ∀ x ∈ [] ++ [id], x ∈ ids := fun x hx =>
      hroots x (List.mem_singleton.1 hx ▸ List.mem_cons_self)
    rw [checkCycles]
    refine FailsOnly.bind ?_ fun _ _ => FailsOnly.bind ?_ fun _ _ =>
      ih fun x hx => hroots x (List.mem_cons_of_mem _ hx)
    · exact (walk_faults (isWalkable_required h) hid (.singleton _)).mono fun _ he => .inl he
    · exact (walk_faults (isWalkable_collection h) hid (.singleton _)).mono fun _ he => .inr he

/-! ## Cycles -/

/-- A required member leads from one structure to the other. -/
def Requires (m : Model) (a b : ShapeId) : Prop :=
  ∃ s t, m.shape? a = some s ∧ s.isStructure = true ∧ m.shape? b = some t ∧ t.isStructure = true ∧
    ∃ e ∈ s.members, e.required = true ∧ e.target = b

/-- An edge leads from one collection to the other. -/
def Nests (m : Model) (a b : ShapeId) : Prop :=
  ∃ s t, m.shape? a = some s ∧ s.isCollection = true ∧ m.shape? b = some t ∧
    t.isCollection = true ∧ ∃ e ∈ s.edges, e.target = b

theorem required_edge_iff {a b : ShapeId} : required.Edge m a b ↔ m.Requires a b := by
  constructor
  · rintro ⟨s, hs, hstructure, e, he, hadmits, rfl⟩
    obtain ⟨hmember, hrequired⟩ := List.mem_filter.1 he
    obtain ⟨t, ht, htarget⟩ := map_eq_ok.1 hadmits
    exact ⟨s, t, hs, hstructure, resolveShape_eq_ok.1 ht, htarget, e, hmember, hrequired, rfl⟩
  · rintro ⟨s, t, hs, hstructure, ht, htarget, e, hmember, hrequired, rfl⟩
    exact ⟨s, hs, hstructure, e, List.mem_filter.2 ⟨hmember, hrequired⟩,
      map_eq_ok.2 ⟨t, resolveShape_eq_ok.2 ht, htarget⟩, rfl⟩

theorem isClosedWalk_required {path : List ShapeId} :
    IsClosedWalk (required.Edge m) path ↔ IsClosedWalk m.Requires path :=
  ⟨fun h => h.imp_of_mem fun _ _ _ _ => required_edge_iff.1,
    fun h => h.imp_of_mem fun _ _ _ _ => required_edge_iff.2⟩

/-- On a closed walk every shape leads on, so that what an edge of a collection leads to is a
collection as well. -/
theorem isClosedWalk_collection {path : List ShapeId} :
    IsClosedWalk (collection.Edge m) path ↔ IsClosedWalk m.Nests path := by
  constructor
  · refine fun h => h.imp_of_mem fun a b _ hb hab => ?_
    obtain ⟨c, hbc⟩ := h.exists_rel hb
    obtain ⟨s, hs, hcollection, he⟩ := collection_edge_iff.1 hab
    obtain ⟨t, ht, hcollection', -⟩ := collection_edge_iff.1 hbc
    exact ⟨s, t, hs, hcollection, ht, hcollection', he⟩
  · refine fun h => h.imp_of_mem ?_
    rintro a b - - ⟨s, t, hs, hcollection, -, -, he⟩
    exact collection_edge_iff.2 ⟨s, hs, hcollection, he⟩

/-! ## Validation -/

/-- The checks of a service that come before the walks for cycles go well. -/
structure PassesLocalChecks (m : Model) (service : ShapeId) (s : Service) (ids : List ShapeId) :
    Prop where
  resolved : m.resolveService service = .ok s
  operations : s.operations.forM (m.checkOperation s.id) = .ok ()
  closure : m.reachable service = .ok ids
  shapes : ids.forM m.checkShape = .ok ()

variable {service : ShapeId} {s : Service}

theorem PassesLocalChecks.validate_eq (h : m.PassesLocalChecks service s ids) :
    m.validate service = m.checkCycles [] [] ids := by
  rw [validate, ok_bind h.resolved, ok_bind h.operations, ok_bind h.closure, ok_bind h.shapes]

theorem PassesLocalChecks.isClosed (h : m.PassesLocalChecks service s ids) : m.IsClosed ids :=
  (reachable_ok (resolveService_eq_ok.1 h.resolved) h.closure).1

/-- What the walks for cycles can do: they find no closed walk, or report one. -/
theorem PassesLocalChecks.validate_cases (h : m.PassesLocalChecks service s ids) :
    (m.validate service = .ok () ∧ ∀ path, (∀ id ∈ path, id ∈ ids) →
      ¬ IsClosedWalk m.Requires path ∧ ¬ IsClosedWalk m.Nests path) ∨
    (∃ path, m.validate service = .error (.invalidGraph .requiredCycle path) ∧
      IsClosedWalk m.Requires path ∧ ∀ id ∈ path, id ∈ ids) ∨
    ∃ path, m.validate service = .error (.invalidGraph .collectionCycle path) ∧
      IsClosedWalk m.Nests path ∧ ∀ id ∈ path, id ∈ ids := by
  rw [h.validate_eq]
  rcases (checkCycles_faults h.isClosed fun _ hid => hid).ok_or_error with ⟨⟨⟩, hok⟩ | ⟨e, he, hreport⟩
  · refine .inl ⟨hok, fun path hpath => ⟨fun hwalk => ?_, fun hwalk => ?_⟩⟩
    · obtain ⟨id, hid, hback⟩ := (isClosedWalk_required.2 hwalk).exists_transGen
      exact (checkCycles_ok hok isCleared_nil isCleared_nil id (hpath id hid)).1 hback
    · obtain ⟨id, hid, hback⟩ := (isClosedWalk_collection.2 hwalk).exists_transGen
      exact (checkCycles_ok hok isCleared_nil isCleared_nil id (hpath id hid)).2 hback
  · rcases hreport with ⟨hwalk, hmem⟩ | ⟨hwalk, hmem⟩
    · exact .inr (.inl ⟨_, he, isClosedWalk_required.1 hwalk, hmem⟩)
    · exact .inr (.inr ⟨_, he, isClosedWalk_collection.1 hwalk, hmem⟩)

/-- Nothing is on a cycle where no member of a structure is required and nothing is a collection. -/
theorem PassesLocalChecks.validate_of_leaves (h : m.PassesLocalChecks service s ids)
    (hleaves : ∀ id ∈ ids, ∀ t, m.shape? id = some t →
      t.isCollection = false ∧ ∀ e ∈ t.members, e.required = false) :
    m.validate service = .ok () := by
  have hfirst {r : ShapeId → ShapeId → Prop} {path : List ShapeId} (hwalk : IsClosedWalk r path) :
      ∃ a ∈ path, ∃ b, r a b := by
    obtain ⟨a, b, rest, rfl⟩ := hwalk.exists_eq_cons_cons
    exact ⟨a, List.mem_cons_self, hwalk.exists_rel List.mem_cons_self⟩
  rcases h.validate_cases with ⟨hok, -⟩ | ⟨path, -, hwalk, hmem⟩ | ⟨path, -, hwalk, hmem⟩
  · exact hok
  · obtain ⟨a, ha, b, t, -, ht, -, -, -, e, he, hrequired, -⟩ := hfirst hwalk
    rw [(hleaves a (hmem a ha) t ht).2 e he] at hrequired
    cases hrequired
  · obtain ⟨a, ha, b, t, -, ht, hcollection, -⟩ := hfirst hwalk
    rw [(hleaves a (hmem a ha) t ht).1] at hcollection
    cases hcollection

/-- Where all other checks go well, a model is rejected for a cycle if and only if the shapes that
the service needs have one, of required members between structures or of edges between collections.
The path of the report is such a cycle, and a model that has none is accepted. -/
theorem validate_cycle_iff (h : m.PassesLocalChecks service s ids) :
    ((∃ path, m.validate service = .error (.invalidGraph .requiredCycle path) ∨
        m.validate service = .error (.invalidGraph .collectionCycle path)) ↔
      ∃ path, (∀ id ∈ path, id ∈ ids) ∧
        (IsClosedWalk m.Requires path ∨ IsClosedWalk m.Nests path)) ∧
    (∀ path, m.validate service = .error (.invalidGraph .requiredCycle path) →
      IsClosedWalk m.Requires path ∧ ∀ id ∈ path, id ∈ ids) ∧
    (∀ path, m.validate service = .error (.invalidGraph .collectionCycle path) →
      IsClosedWalk m.Nests path ∧ ∀ id ∈ path, id ∈ ids) ∧
    (m.validate service = .ok () ∨
      ∃ path, m.validate service = .error (.invalidGraph .requiredCycle path) ∨
        m.validate service = .error (.invalidGraph .collectionCycle path)) := by
  rcases h.validate_cases with ⟨hok, hnone⟩ | ⟨path, herror, hwalk, hmem⟩ | ⟨path, herror, hwalk, hmem⟩
  · simp only [hok, reduceCtorEq, or_self, exists_false, false_iff, false_implies, implies_true,
      true_or, and_true]
    rintro ⟨path, hmem, hwalk | hwalk⟩
    · exact (hnone path hmem).1 hwalk
    · exact (hnone path hmem).2 hwalk
  · rw [herror]
    refine ⟨⟨fun _ => ⟨path, hmem, .inl hwalk⟩, fun _ => ⟨path, .inl rfl⟩⟩, ?_, ?_,
      .inr ⟨path, .inl rfl⟩⟩
    · rintro path' ⟨⟩
      exact ⟨hwalk, hmem⟩
    · rintro path' ⟨⟩
  · rw [herror]
    refine ⟨⟨fun _ => ⟨path, hmem, .inr hwalk⟩, fun _ => ⟨path, .inr rfl⟩⟩, ?_, ?_,
      .inr ⟨path, .inr rfl⟩⟩
    · rintro path' ⟨⟩
    · rintro path' ⟨⟩
      exact ⟨hwalk, hmem⟩

/-- Two folders that require each other are rejected, behind an input that leads to them. -/
theorem validate_cycle_iff_folders :
    let folder : ShapeId := ⟨"store", "Folder"⟩
    let parent : ShapeId := ⟨"store", "Parent"⟩
    let needs (id target : ShapeId) : Shape := ⟨id, .structure [⟨"at", target, true, []⟩], []⟩
    let input : Shape := needs ⟨"store", "Input"⟩ folder
    let put : Operation := ⟨⟨"store", "Put"⟩, some input.id, none, none, none⟩
    let store : Service := ⟨⟨"store", "Store"⟩, "1", [put.id], none, none⟩
    let m : Model := ⟨⟨[needs folder parent, input, needs parent folder], by decide⟩,
      ⟨[put], by decide⟩, ⟨[store], by decide⟩⟩
    m.PassesLocalChecks store.id store [folder, input.id, parent] ∧
      ∃ path, m.validate store.id = .error (.invalidGraph .requiredCycle path) ∨
        m.validate store.id = .error (.invalidGraph .collectionCycle path) := by
  intro folder parent needs input put store m
  have hfolder : m.shape? folder = some (needs folder parent) := by decide
  have hparent : m.shape? parent = some (needs parent folder) := by decide
  have hinput : m.shape? input.id = some input := by decide
  have hclosure : m.reachable store.id = .ok [folder, input.id, parent] := by
    have hsecond : SortedSet.insert folder [input.id] = [folder, input.id] := by decide
    have hthird : SortedSet.insert parent [folder, input.id] = [folder, input.id, parent] := by
      decide
    change m.closure [] [(input.id, .operation put.id)] = _
    rw [closure_new (by decide) hinput]
    change m.closure [input.id] [(folder, .member input.id "at")] = _
    rw [closure_new (by decide) hfolder, hsecond]
    change m.closure _ [(parent, .member folder "at")] = _
    rw [closure_new (by decide) hparent, hthird]
    change m.closure _ [(folder, .member parent "at")] = _
    rw [closure_seen (by decide), closure_nil]
  have hchecks : m.PassesLocalChecks store.id store [folder, input.id, parent] :=
    ⟨by decide, by decide, hclosure, by decide⟩
  have hwalk : IsClosedWalk m.Requires [folder, parent, folder] := by
    refine ⟨.cons_cons ?_ (.cons_cons ?_ (.singleton _)), rfl, by decide⟩
    · exact ⟨_, _, hfolder, rfl, hparent, rfl, _, List.mem_cons_self, rfl, rfl⟩
    · exact ⟨_, _, hparent, rfl, hfolder, rfl, _, List.mem_cons_self, rfl, rfl⟩
  exact ⟨hchecks, (validate_cycle_iff hchecks).1.2 ⟨_, by decide, .inl hwalk⟩⟩

end Model

end ClientGen
