import ClientGen.Proofs.Graph.Closure

/-!
# What the walk over the shapes finds

The walk ends with exactly the shapes that the service needs, or with one of them that is not
defined. What stands beside a pending visit is what asked for it, however long ago, so that an error
names a place that does refer to the missing shape.
-/

namespace ClientGen

namespace Model

/-- The shape is an input or output of an operation that the service lists and that is defined. -/
def HasRole (m : Model) (s : Service) (op id : ShapeId) : Prop :=
  op ∈ s.operations ∧ ∃ o, m.operation? op = some o ∧ (o.input = some id ∨ o.output = some id)

/-- What a service needs is least among what holds the inputs and outputs of its operations and
whatever the edges of its shapes lead to. -/
inductive Needs (m : Model) (s : Service) : ShapeId → Prop
  | role {op id : ShapeId} (hrole : m.HasRole s op id) : Needs m s id
  | edge {id : ShapeId} {t : Shape} {e : Member} (hid : Needs m s id) (ht : m.shape? id = some t)
    (he : e ∈ t.edges) : Needs m s e.target

/-- A place that refers to the shape: an operation of the service, or a member of a shape that the
service needs. -/
inductive Refers (m : Model) (s : Service) (id : ShapeId) : Referrer → Prop
  | role {op : ShapeId} (hrole : m.HasRole s op id) : Refers m s id (.operation op)
  | edge {owner : ShapeId} {t : Shape} {e : Member} (howner : m.Needs s owner)
    (ht : m.shape? owner = some t) (he : e ∈ t.edges) (htarget : e.target = id) :
    Refers m s id (.member owner e.name)

variable {m : Model} {s : Service}

theorem Refers.needs {id : ShapeId} {from_ : Referrer} (h : m.Refers s id from_) :
    m.Needs s id := by
  cases h with
  | role hrole => exact .role hrole
  | edge howner ht he htarget => exact htarget ▸ .edge howner ht he

/-! ## Visits and what asks for them -/

theorem refers_of_mem_serviceVisits {v : Visit} (hv : v ∈ m.serviceVisits s) :
    m.Refers s v.1 v.2 := by
  rw [serviceVisits, List.mem_reverse, List.mem_flatMap] at hv
  obtain ⟨op, hop, hv⟩ := hv
  cases ho : m.operation? op with
  | none =>
    rw [ho] at hv
    cases hv
  | some o =>
    rw [ho] at hv
    obtain ⟨io, hio, rfl⟩ := List.mem_map.1 hv
    exact .role ⟨hop, o, ho, by simpa using hio⟩

/-- The visits that the edges of a needed shape ask for are asked for by its members. -/
theorem refers_of_mem_edgeVisits {id : ShapeId} {t : Shape} (hid : m.Needs s id)
    (ht : m.shape? id = some t) {v : Visit} (hv : v ∈ edgeVisits t) : m.Refers s v.1 v.2 := by
  rw [edgeVisits, List.mem_reverse] at hv
  obtain ⟨e, he, rfl⟩ := List.mem_map.1 hv
  rw [id_of_shape? ht]
  exact .edge hid ht he rfl

/-! ## The walk -/

/-- The walk sees only what is needed, and where it fails, something refers to what is missing. -/
theorem closure_cases {seen : List ShapeId} {pending : List Visit}
    (hseen : ∀ id ∈ seen, m.Needs s id) (hpending : ∀ v ∈ pending, m.Refers s v.1 v.2) :
    (∃ ids, m.closure seen pending = .ok ids ∧ ∀ id ∈ ids, m.Needs s id) ∨
      ∃ id from_, m.closure seen pending = .error (.unresolvedShape id from_) ∧
        m.shape? id = none ∧ m.Refers s id from_ := by
  induction seen, pending using closure.induct m with
  | case1 seen => exact .inl ⟨seen, closure_nil, hseen⟩
  | case2 seen id from_ pending hmem ih =>
    rw [closure_seen hmem]
    exact ih hseen fun v hv => hpending v (List.mem_cons_of_mem _ hv)
  | case3 seen id from_ pending hnew hs =>
    exact .inr ⟨id, from_, closure_undefined hnew hs, hs, hpending _ List.mem_cons_self⟩
  | case4 seen id from_ pending hnew t ht ih =>
    have hid : m.Needs s id := (hpending _ List.mem_cons_self).needs
    rw [closure_new hnew ht]
    refine ih (fun x hx => ?_) fun v hv => ?_
    · rcases SortedSet.mem_insert.1 hx with rfl | hx
      · exact hid
      · exact hseen x hx
    · rcases List.mem_append.1 hv with hv | hv
      · exact refers_of_mem_edgeVisits hid ht hv
      · exact hpending v (List.mem_cons_of_mem _ hv)

/-- The walk keeps what it has seen in ascending order. -/
theorem pairwise_closure {seen ids : List ShapeId} {pending : List Visit}
    (h : m.closure seen pending = .ok ids) (hseen : seen.Pairwise (· < ·)) :
    ids.Pairwise (· < ·) := by
  induction seen, pending using closure.induct m with
  | case1 seen =>
    rw [closure_nil] at h
    obtain rfl := Except.ok.inj h
    exact hseen
  | case2 seen id from_ pending hmem ih =>
    rw [closure_seen hmem] at h
    exact ih h hseen
  | case3 seen id from_ pending hnew hs =>
    rw [closure_undefined hnew hs] at h
    cases h
  | case4 seen id from_ pending hnew t ht ih =>
    rw [closure_new hnew ht] at h
    exact ih h (SortedSet.pairwise_insert ShapeId.lt_trans hseen)

theorem reachable_cases {service : ShapeId} (hs : m.service? service = some s) :
    (∃ ids, m.reachable service = .ok ids ∧ ∀ id ∈ ids, m.Needs s id) ∨
      ∃ id from_, m.reachable service = .error (.unresolvedShape id from_) ∧
        m.shape? id = none ∧ m.Refers s id from_ := by
  rw [reachable_eq_closure hs]
  refine closure_cases (fun id hid => ?_) fun v hv => refers_of_mem_serviceVisits hv
  cases hid

/-- The shapes that the walk ends with are all that the service needs. -/
theorem Needs.mem_reachable {service : ShapeId} (hs : m.service? service = some s)
    {ids : List ShapeId} (h : m.reachable service = .ok ids) {id : ShapeId} (hid : m.Needs s id) :
    id ∈ ids := by
  obtain ⟨hclosed, hroles⟩ := reachable_ok hs h
  induction hid with
  | role hrole =>
    obtain ⟨hop, o, ho, hio⟩ := hrole
    exact hroles _ hop o ho _ hio
  | edge _ ht he ih => exact hclosed.edges _ ih _ ht _ he

/-- The walk over the shapes of a service that the model has gives a result exactly if all that the
service needs is defined, and then gives exactly that, each shape once and in ascending order.
Otherwise it names a needed shape that is not defined, and a place that refers to it. -/
theorem reachable_ok_iff {service : ShapeId} (hs : m.service? service = some s) :
    ((∃ ids, m.reachable service = .ok ids) ↔
      ∀ id, m.Needs s id → ∃ t, m.shape? id = some t) ∧
    (∀ ids, m.reachable service = .ok ids →
      ids.Pairwise (· < ·) ∧ ∀ id, id ∈ ids ↔ m.Needs s id) ∧
    ((∃ id, m.Needs s id ∧ m.shape? id = none) →
      ∃ id from_, m.reachable service = .error (.unresolvedShape id from_) ∧ m.Needs s id ∧
        m.shape? id = none ∧ m.Refers s id from_) := by
  have hwalk := reachable_cases hs
  refine ⟨⟨?_, fun hdefined => ?_⟩, fun ids hids => ⟨?_, fun id => ⟨fun hid => ?_, ?_⟩⟩, ?_⟩
  · rintro ⟨ids, hids⟩ id hid
    exact (reachable_ok hs hids).1.defined id (hid.mem_reachable hs hids)
  · rcases hwalk with ⟨ids, hids, -⟩ | ⟨id, from_, -, hnone, hrefers⟩
    · exact ⟨ids, hids⟩
    · obtain ⟨t, ht⟩ := hdefined id hrefers.needs
      rw [hnone] at ht
      cases ht
  · rw [reachable_eq_closure hs] at hids
    exact pairwise_closure hids .nil
  · rcases hwalk with ⟨ids', hids', hneeds⟩ | ⟨id', from_, herror, -⟩
    · obtain rfl : ids' = ids := Except.ok.inj (hids'.symm.trans hids)
      exact hneeds id hid
    · rw [herror] at hids
      cases hids
  · exact fun hid => hid.mem_reachable hs hids
  · rintro ⟨id, hid, hnone⟩
    rcases hwalk with ⟨ids, hids, -⟩ | ⟨id', from_, herror, hnone', hrefers⟩
    · obtain ⟨t, ht⟩ := (reachable_ok hs hids).1.defined id (hid.mem_reachable hs hids)
      rw [hnone] at ht
      cases ht
    · exact ⟨id', from_, herror, hrefers.needs, hnone', hrefers⟩

/-- The input of an operation leads to a shape that nobody has defined. -/
theorem reachable_ok_iff_ghost :
    let input : Shape :=
      ⟨⟨"store", "Input"⟩, .structure [⟨"self", ⟨"store", "Input"⟩, false, []⟩,
        ⟨"ghost", ⟨"store", "Ghost"⟩, true, []⟩], []⟩
    let put : Operation := ⟨⟨"store", "Put"⟩, some input.id, none, none, none⟩
    let store : Service := ⟨⟨"store", "Store"⟩, "1", [put.id], none, none⟩
    let m : Model := ⟨⟨[input], by decide⟩, ⟨[put], by decide⟩, ⟨[store], by decide⟩⟩
    m.service? store.id = some store ∧
      ∃ id from_, m.reachable store.id = .error (.unresolvedShape id from_) ∧ m.Needs store id ∧
        m.shape? id = none ∧ m.Refers store id from_ := by
  intro input put store m
  have hservice : m.service? store.id = some store := by decide
  have hshape : m.shape? input.id = some input := by decide
  have hrole : m.HasRole store put.id input.id := ⟨by decide, put, by decide, .inl rfl⟩
  have hghost : m.Needs store ⟨"store", "Ghost"⟩ :=
    .edge (.role hrole) hshape (List.mem_cons_of_mem _ List.mem_cons_self)
  exact ⟨hservice, (reachable_ok_iff hservice).2.2 ⟨_, hghost, by decide⟩⟩

end Model

end ClientGen
