import ClientGen.Graph.Reachable
import ClientGen.Proofs.Results

/-!
# What a service reaches

The walk over the shapes ends with shapes that are all defined and that no edge leaves. While it
runs, this holds but for the edges whose targets are still pending.
-/

namespace ClientGen

namespace Model

/-- The shapes seen are defined, and their edges lead to shapes seen or pending. -/
structure IsClosedUpTo (m : Model) (pending seen : List ShapeId) : Prop where
  defined : ∀ id ∈ seen, ∃ s, m.shape? id = some s
  edges : ∀ id ∈ seen, ∀ s, m.shape? id = some s → ∀ e ∈ s.edges,
    e.target ∈ seen ∨ e.target ∈ pending

/-- The shapes are defined, and their edges lead to other ones of them. -/
structure IsClosed (m : Model) (ids : List ShapeId) : Prop where
  defined : ∀ id ∈ ids, ∃ s, m.shape? id = some s
  edges : ∀ id ∈ ids, ∀ s, m.shape? id = some s → ∀ e ∈ s.edges, e.target ∈ ids

variable {m : Model}

theorem IsClosedUpTo.isClosed {seen : List ShapeId} (h : m.IsClosedUpTo [] seen) :
    m.IsClosed seen := by
  refine ⟨h.defined, fun id hid s hs e he => ?_⟩
  rcases h.edges id hid s hs e he with hseen | hpending
  · exact hseen
  · cases hpending

/-! ## One visit -/

section

variable {seen pending : List ShapeId} {id : ShapeId} {from_ : Referrer} {visits : List Visit}

@[simp] theorem closure_nil : m.closure seen [] = .ok seen := by
  rw [closure]

theorem closure_seen (h : id ∈ seen) :
    m.closure seen ((id, from_) :: visits) = m.closure seen visits := by
  rw [closure, dif_pos h]

theorem closure_undefined (h : id ∉ seen) (hs : m.shape? id = none) :
    m.closure seen ((id, from_) :: visits) = .error (.unresolvedShape id from_) := by
  rw [closure, dif_neg h, hs]

theorem closure_new (h : id ∉ seen) {s : Shape} (hs : m.shape? id = some s) :
    m.closure seen ((id, from_) :: visits) =
      m.closure (SortedSet.insert id seen) (edgeVisits s ++ visits) := by
  rw [closure, dif_neg h, hs]

/-- A visit to a shape seen before can be left out. -/
theorem IsClosedUpTo.skip (h : m.IsClosedUpTo (id :: pending) seen) (hid : id ∈ seen) :
    m.IsClosedUpTo pending seen := by
  refine ⟨h.defined, fun x hx s hs e he => ?_⟩
  rcases h.edges x hx s hs e he with hseen | hpending
  · exact .inl hseen
  · rcases List.mem_cons.1 hpending with heq | hpending
    · exact .inl (heq ▸ hid)
    · exact .inr hpending

/-- A visit to a new shape makes the targets of its edges pending. -/
theorem IsClosedUpTo.visit {s : Shape} (h : m.IsClosedUpTo (id :: pending) seen)
    (hs : m.shape? id = some s) :
    m.IsClosedUpTo ((edgeVisits s).map (·.1) ++ pending) (SortedSet.insert id seen) := by
  constructor
  · intro x hx
    rcases SortedSet.mem_insert.1 hx with rfl | hx
    · exact ⟨s, hs⟩
    · exact h.defined x hx
  · intro x hx t ht e he
    rw [SortedSet.mem_insert, List.mem_append]
    rcases SortedSet.mem_insert.1 hx with rfl | hx
    · obtain rfl : s = t := Option.some.inj (hs.symm.trans ht)
      refine .inr (.inl ?_)
      simp only [edgeVisits, List.map_reverse, List.map_map, List.mem_reverse, List.mem_map]
      exact ⟨e, he, rfl⟩
    · rcases h.edges x hx t ht e he with hseen | hpending
      · exact .inl (.inr hseen)
      · rcases List.mem_cons.1 hpending with heq | hpending
        · exact .inl (.inl heq)
        · exact .inr (.inr hpending)

end

/-! ## The whole walk -/

/-- The walk keeps what it has seen and reaches what is pending, and its result is closed. -/
theorem closure_ok {seen ids : List ShapeId} {pending : List Visit}
    (h : m.closure seen pending = .ok ids) :
    (∀ id ∈ seen, id ∈ ids) ∧ (∀ v ∈ pending, v.1 ∈ ids) ∧
      (m.IsClosedUpTo (pending.map (·.1)) seen → m.IsClosed ids) := by
  induction seen, pending using closure.induct m with
  | case1 seen =>
    rw [closure_nil] at h
    obtain rfl := Except.ok.inj h
    refine ⟨fun _ hid => hid, fun v hv => ?_, fun hclosed => hclosed.isClosed⟩
    cases hv
  | case2 seen id from_ pending hseen ih =>
    rw [closure_seen hseen] at h
    obtain ⟨hkeep, hreach, hclosed⟩ := ih h
    refine ⟨hkeep, fun v hv => ?_, fun hupTo => hclosed (hupTo.skip hseen)⟩
    rcases List.mem_cons.1 hv with rfl | hv
    · exact hkeep id hseen
    · exact hreach v hv
  | case3 seen id from_ pending hnew hs =>
    rw [closure_undefined hnew hs] at h
    cases h
  | case4 seen id from_ pending hnew s hs ih =>
    rw [closure_new hnew hs] at h
    obtain ⟨hkeep, hreach, hclosed⟩ := ih h
    refine ⟨fun x hx => hkeep x (SortedSet.mem_insert.2 (.inr hx)), fun v hv => ?_,
      fun hupTo => hclosed ?_⟩
    · rcases List.mem_cons.1 hv with rfl | hv
      · exact hkeep id (SortedSet.mem_insert.2 (.inl rfl))
      · exact hreach v (List.mem_append_right _ hv)
    · rw [List.map_append]
      exact hupTo.visit hs

theorem reachable_eq_closure {service : ShapeId} {s : Service} (hs : m.service? service = some s) :
    m.reachable service = m.closure [] (m.serviceVisits s) := by
  rw [reachable, resolveService, hs]
  rfl

/-- What a service reaches is closed and has the inputs and outputs of its operations. -/
theorem reachable_ok {service : ShapeId} {s : Service} {ids : List ShapeId}
    (hs : m.service? service = some s) (h : m.reachable service = .ok ids) :
    m.IsClosed ids ∧ ∀ op ∈ s.operations, ∀ o, m.operation? op = some o →
      ∀ io, o.input = some io ∨ o.output = some io → io ∈ ids := by
  rw [reachable_eq_closure hs] at h
  obtain ⟨-, hreach, hclosed⟩ := closure_ok h
  constructor
  · refine hclosed ⟨fun id hid => ?_, fun id hid => ?_⟩ <;> cases hid
  · intro op hop o ho io hio
    refine hreach (io, .operation op) ?_
    rw [serviceVisits, List.mem_reverse, List.mem_flatMap]
    refine ⟨op, hop, ?_⟩
    rw [ho]
    refine List.mem_map.2 ⟨io, ?_, rfl⟩
    rcases hio with hio | hio <;> simp [hio]

end Model

end ClientGen
