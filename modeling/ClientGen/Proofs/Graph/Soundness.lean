import ClientGen.Proofs.Graph.Closure
import ClientGen.Proofs.Graph.Cycles

/-!
# What the checks establish

A model that passes the checks has, for one service, everything that generating code looks up: the
operations and their structures, and shapes among which no reference leads nowhere, no key of a map
is without a written form, and no walk from collection to collection comes back.
-/

namespace ClientGen

theorem Shape.mem_edges_of_mem_members {s : Shape} {e : Member} (he : e ∈ s.members) :
    e ∈ s.edges := by
  unfold members at he
  unfold edges
  cases hkind : s.kind <;> rw [hkind] at he <;> first | exact he | cases he

/-! ## The members of one shape -/

/-- The names of two members are apart: as written, as fields and as types. -/
structure Member.NamedApart (a b : Member) : Prop where
  name : a.name ≠ b.name
  field : Naming.fieldName a.name ≠ Naming.fieldName b.name
  type : Naming.typeName a.name ≠ Naming.typeName b.name

theorem namedApart_of_checkMembersFrom {owner : ShapeId} {earlier members : List Member}
    (h : checkMembersFrom owner earlier members = .ok ()) :
    members.Pairwise Member.NamedApart ∧ ∀ a ∈ earlier, ∀ b ∈ members, a.NamedApart b := by
  induction members generalizing earlier with
  | nil => exact ⟨.nil, fun a _ b hb => by cases hb⟩
  | cons e rest ih =>
    rw [checkMembersFrom] at h
    split at h
    · cases h
    split at h
    · cases h
    · rename_i hnames hidentifiers
      obtain ⟨hpairwise, hearlier⟩ := ih h
      refine ⟨List.pairwise_cons.2 ⟨hearlier e List.mem_cons_self, hpairwise⟩, fun a ha b hb => ?_⟩
      rcases List.mem_cons.1 hb with rfl | hb
      · constructor <;> intro heq
        · exact hnames (List.any_eq_true.2 ⟨a, ha, by simp [heq]⟩)
        · exact hidentifiers (List.any_eq_true.2 ⟨a, ha, by simp [heq]⟩)
        · exact hidentifiers (List.any_eq_true.2 ⟨a, ha, by simp [heq]⟩)
      · exact hearlier a (List.mem_cons_of_mem _ ha) b hb

/-- Members that are accepted have names that are apart. -/
theorem Shape.pairwise_of_checkMembers {s : Shape} (h : s.checkMembers = .ok ()) :
    s.members.Pairwise Member.NamedApart :=
  (namedApart_of_checkMembersFrom h).1

namespace Model

open Relation

/-- Shapes of which code can be made. -/
structure IsSound (m : Model) (ids : List ShapeId) : Prop extends m.IsClosed ids where
  keys : ∀ id ∈ ids, ∀ s k v, m.shape? id = some s → s.kind = .map k v →
    ∃ key, m.shape? k.target = some key ∧ key.isKey = true
  required : ∀ id ∈ ids, ¬ TransGen (CycleKind.required.Edge m) id id
  collections : ∀ id ∈ ids, ¬ TransGen (CycleKind.collection.Edge m) id id

/-- The operations that a service lists are defined, and so are the structures that they name. -/
def HasOperations (m : Model) (s : Service) (ids : List ShapeId) : Prop :=
  ∀ op ∈ s.operations, ∃ o, m.operation? op = some o ∧
    ∀ io, o.input = some io ∨ o.output = some io →
      io ∈ ids ∧ ∃ t, m.shape? io = some t ∧ t.isStructure = true

variable {m : Model}

/-! ## Lookups -/

theorem resolveShape_eq_ok {id : ShapeId} {from_ : Referrer} {s : Shape} :
    m.resolveShape id from_ = .ok s ↔ m.shape? id = some s := by
  unfold resolveShape
  cases m.shape? id <;> simp

theorem resolveService_eq_ok {service : ShapeId} {s : Service} :
    m.resolveService service = .ok s ↔ m.service? service = some s := by
  unfold resolveService
  cases m.service? service <;> simp

theorem IsClosed.resolveShape {ids : List ShapeId} (h : m.IsClosed ids) {id : ShapeId}
    (hid : id ∈ ids) (from_ : Referrer) :
    ∃ s, m.resolveShape id from_ = .ok s ∧ m.shape? id = some s := by
  obtain ⟨s, hs⟩ := h.defined id hid
  exact ⟨s, resolveShape_eq_ok.2 hs, hs⟩

/-! ## The single checks -/

theorem checkRole_ok {op io : ShapeId} {role : Role} (h : m.checkRole op role (some io) = .ok ()) :
    ∃ t, m.shape? io = some t ∧ t.isStructure = true := by
  obtain ⟨t, ht, hcheck⟩ := bind_eq_ok.1 h
  refine ⟨t, resolveShape_eq_ok.1 ht, ?_⟩
  by_cases hstructure : t.isStructure = true
  · exact hstructure
  · rw [if_neg hstructure] at hcheck
    cases hcheck

/-- An operation that passes its check is defined, and so are the structures that it names. -/
theorem checkOperation_ok {service op : ShapeId} (h : m.checkOperation service op = .ok ()) :
    ∃ o, m.operation? op = some o ∧ ∀ io, o.input = some io ∨ o.output = some io →
      ∃ t, m.shape? io = some t ∧ t.isStructure = true := by
  unfold checkOperation at h
  cases ho : m.operation? op with
  | none =>
    rw [ho] at h
    cases h
  | some o =>
    rw [ho] at h
    obtain ⟨⟨⟩, hinput, houtput⟩ := bind_eq_ok.1 h
    refine ⟨o, rfl, fun io hio => ?_⟩
    rcases hio with hio | hio
    · rw [hio] at hinput
      exact checkRole_ok hinput
    · rw [hio] at houtput
      exact checkRole_ok houtput

/-- A map that passes its check has keys with a written form. -/
theorem checkMapKey_ok {s : Shape} {k v : Member} (hkind : s.kind = .map k v)
    (h : m.checkMapKey s = .ok ()) : ∃ key, m.shape? k.target = some key ∧ key.isKey = true := by
  rw [checkMapKey, hkind] at h
  obtain ⟨key, hkey, hcheck⟩ := bind_eq_ok.1 h
  refine ⟨key, resolveShape_eq_ok.1 hkey, ?_⟩
  by_cases hwritten : key.isKey = true
  · exact hwritten
  · rw [if_neg hwritten] at hcheck
    cases hcheck

theorem checkShape_ok {id : ShapeId} {s : Shape} (hs : m.shape? id = some s)
    (h : m.checkShape id = .ok ()) : s.checkMembers = .ok () ∧ m.checkMapKey s = .ok () := by
  obtain ⟨t, ht, h⟩ := bind_eq_ok.1 h
  obtain ⟨⟨⟩, hmembers, hkey⟩ := bind_eq_ok.1 h
  obtain rfl : s = t := Option.some.inj (hs.symm.trans (resolveShape_eq_ok.1 ht))
  exact ⟨hmembers, hkey⟩

/-! ## All checks -/

/-- A model that passes the checks has a sound closure for the service. -/
theorem validate_ok {service : ShapeId} (h : m.validate service = .ok ()) :
    ∃ s ids, m.service? service = some s ∧ m.reachable service = .ok ids ∧ m.IsSound ids ∧
      m.HasOperations s ids := by
  obtain ⟨s, hservice, h⟩ := bind_eq_ok.1 h
  obtain ⟨⟨⟩, hoperations, h⟩ := bind_eq_ok.1 h
  obtain ⟨ids, hids, h⟩ := bind_eq_ok.1 h
  obtain ⟨⟨⟩, hshapes, hcycles⟩ := bind_eq_ok.1 h
  have hs : m.service? service = some s := resolveService_eq_ok.1 hservice
  obtain ⟨hclosed, hroles⟩ := reachable_ok hs hids
  have hacyclic := checkCycles_ok hcycles CycleKind.isCleared_nil CycleKind.isCleared_nil
  refine ⟨s, ids, hs, hids, ⟨hclosed, fun id hid t k v ht hkind => ?_,
    fun id hid => (hacyclic id hid).1, fun id hid => (hacyclic id hid).2⟩, fun op hop => ?_⟩
  · exact checkMapKey_ok hkind (checkShape_ok ht (forM_eq_ok hshapes id hid)).2
  · obtain ⟨o, ho, hio⟩ := checkOperation_ok (forM_eq_ok hoperations op hop)
    exact ⟨o, ho, fun io hrole => ⟨hroles op hop o ho io hrole, hio io hrole⟩⟩

/-! ## Walks through collections -/

/-- What holds of a shape if it holds of what a collection leads to, with the collection on the
path, holds of all shapes: no path through collections comes to a shape twice. -/
theorem IsSound.walk_induction {ids : List ShapeId} {motive : List ShapeId → ShapeId → Prop}
    (h : m.IsSound ids)
    (shape : ∀ path id s, id ∈ ids → id ∉ path → m.shape? id = some s →
      (∀ e ∈ s.edges, s.isCollection = true → motive (path ++ [id]) e.target) → motive path id)
    {id : ShapeId} (hid : id ∈ ids) : motive [] id := by
  have key : ∀ path id, id ∈ ids →
      (∀ x ∈ path, TransGen (CycleKind.collection.Edge m) x id) → motive path id := by
    refine path_induction (m := m) ?_ ?_ ?_
    · intro path id hmem hid hpath
      exact absurd (hpath id hmem) (h.collections id hid)
    · intro path id _ hnone hid _
      obtain ⟨s, hs⟩ := h.defined id hid
      rw [hnone] at hs
      cases hs
    · intro path id s hnew hs ih hid hpath
      refine shape path id s hid hnew hs fun e he hcollection => ?_
      have hedge := CycleKind.collection_edge_iff.2 ⟨s, hs, hcollection, e, he, rfl⟩
      refine ih e he hcollection (h.edges id hid s hs e he) fun x hx => ?_
      rcases List.mem_append.1 hx with hx | hx
      · exact (hpath x hx).tail hedge
      · obtain rfl := List.mem_singleton.1 hx
        exact .single hedge
  exact key [] id hid fun x hx => by cases hx

/-! ## The shapes themselves -/

/-- The shape is the one that is defined under its identifier, which is one of these. -/
structure IsAmong (m : Model) (ids : List ShapeId) (s : Shape) : Prop where
  mem : s.id ∈ ids
  shape : m.shape? s.id = some s

theorem isAmong_of_shape? {ids : List ShapeId} {id : ShapeId} {s : Shape} (hid : id ∈ ids)
    (hs : m.shape? id = some s) : m.IsAmong ids s := by
  obtain rfl := id_of_shape? hs
  exact ⟨hid, hs⟩

theorem IsAmong.target {ids : List ShapeId} {s : Shape} (hs : m.IsAmong ids s)
    (h : m.IsClosed ids) {e : Member} (he : e ∈ s.members) : e.target ∈ ids :=
  h.edges s.id hs.mem s hs.shape e (Shape.mem_edges_of_mem_members he)

end Model

end ClientGen
