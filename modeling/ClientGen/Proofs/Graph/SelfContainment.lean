import ClientGen.Proofs.Codec.Nesting
import ClientGen.Proofs.Graph.CycleReports
import ClientGen.Proofs.Symbol.Memory

/-!
# Collections that contain themselves

A collection that contains itself has no type and no codec, and four computations come upon it: the
walk for cycles, the symbols, the decoders and the encoders. Each of them goes from a collection to
what it holds and keeps the path by which it came, so it reports a cycle only where the path leads
back; and it cannot go well on a shape unless it does on all that the shape leads to. Hence all of
them report the same shapes.
-/

namespace ClientGen

open Relation

/-- A report of a collection that contains itself. -/
def IsCollectionCycle {α : Type} (r : Except GenerationError α) : Prop :=
  ∃ path, r = .error (.invalidGraph .collectionCycle path)

namespace Model

/-- References lead to shapes, keys of maps have a written form, and the scalar types have
expressions for the defaults. -/
structure IsComplete (m : Model) : Prop where
  edges : ∀ s ∈ m.shapes.entries, ∀ e ∈ s.edges, (m.shape? e.target).isSome = true
  keys : ∀ s ∈ m.shapes.entries, m.KeyIs (·.isKey = true) s
  defaults : ∀ s ∈ m.shapes.entries, ∀ p, s.kind = .primitive p →
    ∃ symbol, s.scalarSymbol p = .ok symbol

/-- Edges between collections lead from the shape to a collection that contains itself. -/
def Loops (m : Model) (id : ShapeId) : Prop :=
  ∃ c, ReflTransGen m.Nests id c ∧ TransGen m.Nests c c

variable {m : Model} {id : ShapeId} {s : Shape} {path : List ShapeId}

/-! ## Loops and single edges -/

section

open CycleKind (collection collection_edge_iff)

theorem Nests.edge {a b : ShapeId} (h : m.Nests a b) : collection.Edge m a b := by
  obtain ⟨s, -, hs, hcollection, -, -, he⟩ := h
  exact collection_edge_iff.2 ⟨s, hs, hcollection, he⟩

/-- An edge of a collection to a shape that leads on is one between collections. -/
theorem nests_of_edge {a b c : ShapeId} (hab : collection.Edge m a b)
    (hbc : collection.Edge m b c) : m.Nests a b := by
  obtain ⟨s, hs, hcollection, he⟩ := collection_edge_iff.1 hab
  obtain ⟨t, ht, hcollection', -⟩ := collection_edge_iff.1 hbc
  exact ⟨s, t, hs, hcollection, ht, hcollection', he⟩

theorem transGen_nests {a b c : ShapeId} (hw : TransGen (collection.Edge m) a b)
    (hbc : collection.Edge m b c) : TransGen m.Nests a b := by
  induction hw using TransGen.head_induction_on with
  | single hab => exact .single (nests_of_edge hab hbc)
  | head hax hxb ih =>
    obtain ⟨y, hxy, -⟩ := TransGen.head'_iff.1 hxb
    exact .head (nests_of_edge hax hxy) ih

theorem loops_of_edges {c : ShapeId} (hreach : ReflTransGen (collection.Edge m) id c)
    (hback : TransGen (collection.Edge m) c c) : m.Loops id := by
  obtain ⟨y, hedge, -⟩ := TransGen.head'_iff.1 hback
  refine ⟨c, ?_, transGen_nests hback hedge⟩
  rcases reflTransGen_iff_eq_or_transGen.1 hreach with rfl | hreach
  · exact .refl
  · exact (transGen_nests hreach hedge).to_reflTransGen

/-- What leads to a loop does so by an edge to a shape that leads to it. -/
theorem Loops.exists_edge (h : m.Loops id) : ∃ y, collection.Edge m id y ∧ m.Loops y := by
  obtain ⟨c, hreach, hback⟩ := h
  rcases ReflTransGen.cases_head hreach with rfl | ⟨y, hedge, hreach⟩
  · obtain ⟨y, hedge, hreach⟩ := TransGen.head'_iff.1 hback
    exact ⟨y, hedge.edge, id, hreach, hback⟩
  · exact ⟨y, hedge.edge, c, hreach, hback⟩

theorem Loops.of_edge {y : ShapeId} (hedge : collection.Edge m id y) (h : m.Loops y) :
    m.Loops id := by
  obtain ⟨z, hyz, -⟩ := h.exists_edge
  obtain ⟨c, hreach, hback⟩ := h
  exact ⟨c, .head (nests_of_edge hedge hyz) hreach, hback⟩

/-- Only defined collections lead to loops. -/
theorem Loops.isCollection (h : m.Loops id) :
    ∃ s, m.shape? id = some s ∧ s.isCollection = true := by
  obtain ⟨y, hedge, -⟩ := h.exists_edge
  obtain ⟨s, hs, hcollection, -⟩ := collection_edge_iff.1 hedge
  exact ⟨s, hs, hcollection⟩

end

/-! ## Complete models -/

namespace IsComplete

variable {e : Member}

theorem target (h : m.IsComplete) (hs : m.shape? id = some s) (he : e ∈ s.edges) :
    ∃ t, m.shape? e.target = some t :=
  Option.isSome_iff_exists.1 (h.edges s (List.mem_of_find?_eq_some hs) e he)

theorem keyIs (h : m.IsComplete) (hs : m.shape? id = some s) : m.KeyIs (·.isKey = true) s :=
  h.keys s (List.mem_of_find?_eq_some hs)

theorem scalarSymbol (h : m.IsComplete) (hs : m.shape? id = some s) {p : Primitive}
    (hkind : s.kind = .primitive p) : ∃ symbol, s.scalarSymbol p = .ok symbol :=
  h.defaults s (List.mem_of_find?_eq_some hs) p hkind

/-- The way from a collection to a loop is through what it holds, as no key is a collection. -/
theorem loops_element (h : m.IsComplete) (hs : m.shape? id = some s) (he : s.element? = some e)
    (hloops : m.Loops id) : m.Loops e.target := by
  obtain ⟨y, hedge, hy⟩ := hloops.exists_edge
  obtain ⟨t, ht, -, e', he', rfl⟩ := CycleKind.collection_edge_iff.1 hedge
  obtain rfl := Option.some.inj (hs.symm.trans ht)
  unfold Shape.element? at he
  unfold Shape.edges at he'
  cases hkind : s.kind with
  | list x | set x =>
    rw [hkind] at he he'
    cases he
    rwa [List.mem_singleton.1 he'] at hy
  | map k v =>
    rw [hkind] at he he'
    cases he
    rcases List.mem_cons.1 he' with rfl | he'
    · obtain ⟨key, hkey, hwritten⟩ := h.keyIs hs _ _ hkind
      obtain ⟨key', hkey', hcollection⟩ := hy.isCollection
      obtain rfl := Option.some.inj (hkey.symm.trans hkey')
      unfold Shape.isKey at hwritten
      unfold Shape.isCollection at hcollection
      cases hkind' : key.kind <;> simp [hkind'] at hwritten hcollection
    · rwa [List.mem_singleton.1 he'] at hy
  | _ =>
    rw [hkind] at he
    cases he

end IsComplete

/-! ## What detects loops -/

/-- A computation for a shape fails only by reporting a cycle, and only if the shape leads to a
loop; and if the shape does, the computation fails. -/
structure Detects {α : Type} (m : Model) (id : ShapeId) (r : Except GenerationError α) : Prop where
  faults : FailsOnly (fun e => m.Loops id ∧ ∃ path, e = .invalidGraph .collectionCycle path) r
  ok : ∀ a, r = .ok a → ¬ m.Loops id

namespace Detects

variable {α : Type} {r : Except GenerationError α}

theorem iff (h : m.Detects id r) : IsCollectionCycle r ↔ m.Loops id := by
  constructor
  · rintro ⟨path, hr⟩
    exact (h.faults _ hr).1
  · intro hloops
    cases r with
    | ok a => exact absurd hloops (h.ok a rfl)
    | error e =>
      obtain ⟨-, path, rfl⟩ := h.faults e rfl
      exact ⟨path, rfl⟩

theorem report (hpath : ∀ x ∈ path, TransGen (CycleKind.collection.Edge m) x id)
    (hid : id ∈ path) : m.Detects id
      (.error (.invalidGraph .collectionCycle (path ++ [id])) : Except GenerationError α) :=
  ⟨.error ⟨loops_of_edges .refl (hpath id hid), _, rfl⟩, fun _ h => by cases h⟩

end Detects

/-- Where an undefined shape is reported, it leads to no loop. -/
theorem isCollectionCycle_iff_of_undefined {α : Type} {r : Except GenerationError α}
    (hs : m.shape? id = none) {from_ : Referrer} (hr : r = .error (.unresolvedShape id from_)) :
    IsCollectionCycle r ↔ m.Loops id := by
  refine iff_of_false ?_ fun hloops => ?_
  · rintro ⟨path, h⟩
    rw [hr] at h
    cases h
  · obtain ⟨s, hs', -⟩ := hloops.isCollection
    rw [hs] at hs'
    cases hs'

theorem mem_ids_iff : id ∈ m.shapes.ids ↔ ∃ s, m.shape? id = some s := by
  constructor
  · intro hid
    obtain ⟨s, hs, hsid⟩ := List.mem_map.1 hid
    refine Option.isSome_iff_exists.1 (List.find?_isSome.2 ⟨s, hs, ?_⟩)
    exact decide_eq_true hsid
  · rintro ⟨s, hs⟩
    exact mem_ids_of_shape? hs

/-- One more shape on a path that leads to it leads on to what the shape does. -/
theorem transGen_edge_of_mem_append
    (hpath : ∀ x ∈ path, TransGen (CycleKind.collection.Edge m) x id)
    {y : ShapeId} (hedge : CycleKind.collection.Edge m id y) :
    ∀ x ∈ path ++ [id], TransGen (CycleKind.collection.Edge m) x y := by
  intro x hx
  rcases List.mem_append.1 hx with hx | hx
  · exact (hpath x hx).tail hedge
  · exact List.mem_singleton.1 hx ▸ .single hedge

/-! ### The walk for cycles -/

/-- Among the shapes that a shape leads to, the walk comes to nothing else. -/
theorem walk_detects (h : m.IsComplete) (hid : ∃ s, m.shape? id = some s) :
    m.Detects id (CycleKind.collection.walk m [] [] id) := by
  classical
  let reached := m.shapes.ids.filter fun x => ReflTransGen (CycleKind.collection.Edge m) id x
  have hreached : ∀ x, x ∈ reached ↔
      (∃ s, m.shape? x = some s) ∧ ReflTransGen (CycleKind.collection.Edge m) id x := fun x => by
    rw [List.mem_filter, decide_eq_true_iff, mem_ids_iff]
  have hwalkable : CycleKind.collection.IsWalkable m reached := by
    refine ⟨fun x hx => ((hreached x).1 hx).1, fun x hx s hs hexpands e he => ⟨?_, true, rfl⟩⟩
    exact (hreached _).2 ⟨h.target hs he,
      ((hreached x).1 hx).2.tail (CycleKind.collection_edge_iff.2 ⟨s, hs, hexpands, e, he, rfl⟩)⟩
  constructor
  · have hroot : ∀ x ∈ [] ++ [id], x ∈ reached := fun x hx =>
      List.mem_singleton.1 hx ▸ (hreached id).2 ⟨hid, .refl⟩
    refine (CycleKind.walk_faults hwalkable hroot (.singleton _)).mono ?_
    rintro - ⟨hwalk, hmem⟩
    obtain ⟨c, hc, hback⟩ := hwalk.exists_transGen
    exact ⟨loops_of_edges ((hreached c).1 (hmem c hc)).2 hback, _, rfl⟩
  · rintro done hdone ⟨c, hreach, hback⟩
    obtain ⟨hcleared, -, hmem⟩ := CycleKind.walk_ok hdone CycleKind.isCleared_nil
    have hreach := ReflTransGen.mono (fun _ _ => Nests.edge) _ _ hreach
    exact hcleared.acyclic c (hcleared.mem_of_walk hmem hreach)
      (TransGen.mono (fun _ _ => Nests.edge) _ _ hback)

/-! ### Symbols -/

/-- The symbol of a shape is refused exactly if the shape leads to a loop, whatever shapes were on
the way to it. -/
theorem symbolFrom_detects (h : m.IsComplete) (ns : String) (path : List ShapeId) (id : ShapeId)
    (hid : ∃ s, m.shape? id = some s)
    (hpath : ∀ x ∈ path, TransGen (CycleKind.collection.Edge m) x id) :
    m.Detects id (m.symbolFrom ns path id) := by
  induction path, id using path_induction (m := m) with
  | repeated path id hmem =>
    rw [symbolFrom_cycle hmem]
    exact .report hpath hmem
  | undefined path id _ hs =>
    obtain ⟨s, hs'⟩ := hid
    rw [hs] at hs'
    cases hs'
  | shape path id s hnew hs ih =>
    have hedge : ∀ e ∈ s.edges, s.isCollection = true →
        CycleKind.collection.Edge m id e.target := fun e he hcollection =>
      CycleKind.collection_edge_iff.2 ⟨s, hs, hcollection, e, he, rfl⟩
    have hstep : ∀ e ∈ s.edges, s.isCollection = true →
        m.Detects e.target (m.symbolFrom ns (path ++ [id]) e.target) := fun e he hcollection =>
      ih e he hcollection (h.target hs he)
        (transGen_edge_of_mem_append hpath (hedge e he hcollection))
    have hfaults : ∀ e ∈ s.edges, s.isCollection = true →
        FailsOnly (fun err => m.Loops id ∧ ∃ path, err = .invalidGraph .collectionCycle path)
          (m.symbolFrom ns (path ++ [id]) e.target) := fun e he hcollection =>
      (hstep e he hcollection).faults.mono fun _ herr =>
        ⟨herr.1.of_edge (hedge e he hcollection), herr.2⟩
    rw [symbolFrom_shape hnew hs]
    constructor
    · unfold Shape.symbolWith
      split
      case h_1 | h_2 | h_3 => exact .ok _
      case h_4 p hkind => exact (FailsOnly.of_eq_ok (h.scalarSymbol hs hkind)).map
      case h_5 e hkind | h_6 e hkind =>
        exact (hfaults e (by simp [Shape.edges, hkind]) (by simp [Shape.isCollection, hkind])).map
      case h_7 k v hkind =>
        have hcollection : s.isCollection = true := by simp [Shape.isCollection, hkind]
        refine (hfaults k (by simp [Shape.edges, hkind]) hcollection).bind fun key _ => ?_
        exact (hfaults v (by simp [Shape.edges, hkind]) hcollection).map
    · intro symbol hsymbol hloops
      obtain ⟨y, hy, hloops⟩ := hloops.exists_edge
      obtain ⟨t, ht, hcollection, e, he, rfl⟩ := CycleKind.collection_edge_iff.1 hy
      obtain rfl := Option.some.inj (hs.symm.trans ht)
      obtain ⟨inner, hinner⟩ := Shape.ok_of_symbolWith hsymbol hcollection e he
      exact (hstep e he hcollection).ok inner hinner hloops

/-! ### Codecs -/

/-- What goes well at a leaf, reports a collection on its path, and fails at any other one only if
what this holds fails, detects loops. -/
theorem detects_of_steps (h : m.IsComplete) {α β : Type}
    (run : α → List ShapeId → ShapeId → Except GenerationError β)
    (leaf : ∀ a path id s, m.shape? id = some s → s.element? = none → ∃ b, run a path id = .ok b)
    (cycle : ∀ a path id s e, m.shape? id = some s → s.element? = some e → id ∈ path →
      run a path id = .error (.invalidGraph .collectionCycle (path ++ [id])))
    (collection : ∀ a path id s e, m.shape? id = some s → s.element? = some e → id ∉ path →
      ∃ a' f, run a path id = (run a' (path ++ [id]) e.target).map f)
    (a : α) (path : List ShapeId) (id : ShapeId) (hid : ∃ s, m.shape? id = some s)
    (hpath : ∀ x ∈ path, TransGen (CycleKind.collection.Edge m) x id) :
    m.Detects id (run a path id) := by
  have hleaf : ∀ a path id s, m.shape? id = some s → s.element? = none →
      m.Detects id (run a path id) := fun a path id s hs he => by
    refine ⟨.of_eq_ok (leaf a path id s hs he), fun b _ hloops => ?_⟩
    obtain ⟨t, ht, hcollection⟩ := hloops.isCollection
    obtain rfl := Option.some.inj (hs.symm.trans ht)
    rw [Shape.isCollection_eq, he] at hcollection
    cases hcollection
  induction path, id using path_induction (m := m) generalizing a with
  | repeated path id hmem =>
    obtain ⟨s, hs⟩ := hid
    cases he : s.element? with
    | none => exact hleaf a path id s hs he
    | some e =>
      rw [cycle a path id s e hs he hmem]
      exact .report hpath hmem
  | undefined path id _ hs =>
    obtain ⟨s, hs'⟩ := hid
    rw [hs] at hs'
    cases hs'
  | shape path id s hnew hs ih =>
    cases he : s.element? with
    | none => exact hleaf a path id s hs he
    | some e =>
      have hmem : e ∈ s.edges := Shape.mem_edges_of_element? he
      have hcollection : s.isCollection = true := by rw [Shape.isCollection_eq, he]; rfl
      have hedge : CycleKind.collection.Edge m id e.target :=
        CycleKind.collection_edge_iff.2 ⟨s, hs, hcollection, e, hmem, rfl⟩
      obtain ⟨a', f, hrun⟩ := collection a path id s e hs he hnew
      have hinner := ih e hmem hcollection a' (h.target hs hmem)
        (transGen_edge_of_mem_append hpath hedge)
      rw [hrun]
      refine ⟨(hinner.faults.mono fun err herr => ?_).map, fun b hb hloops => ?_⟩
      · exact ⟨herr.1.of_edge hedge, herr.2⟩
      · obtain ⟨b', hb', -⟩ := map_eq_ok.1 hb
        exact hinner.ok b' hb' (h.loops_element hs he hloops)

theorem decode_detects (h : m.IsComplete) (hid : ∃ s, m.shape? id = some s) (p : CodecPath)
    (source : Expr) (binding : String) : m.Detects id (m.decode p [] id source binding) := by
  refine detects_of_steps h (fun (a : CodecPath × Expr × String) path id =>
      m.decode a.1 path id a.2.1 a.2.2)
    (fun a path id s hs he => ⟨_, decode_leaf hs he⟩)
    (fun a path id s e hs he => decode_cycle hs he)
    (fun a path id s e hs he hnew => ?_) (p, source, binding) [] id hid (by simp)
  obtain ⟨around, haround⟩ := (collectionDecoder_ok_iff a.1 e a.2.1 a.2.2).2 (h.keyIs hs)
  refine ⟨(a.1.deeper, .source (a.1.temp "value"), a.1.temp "element"), around, ?_⟩
  rw [decode_collection hs he hnew, haround]
  rfl

theorem encode_detects (h : m.IsComplete) (hid : ∃ s, m.shape? id = some s) (p : CodecPath)
    (source : Expr) (binding : String) : m.Detects id (m.encode p [] id source binding) := by
  refine detects_of_steps h (fun (a : CodecPath × Expr × String) path id =>
      m.encode a.1 path id a.2.1 a.2.2)
    (fun a path id s hs he => ⟨_, encode_leaf hs he⟩)
    (fun a path id s e hs he => encode_cycle hs he)
    (fun a path id s e hs he hnew => ?_) (p, source, binding) [] id hid (by simp)
  obtain ⟨around, haround⟩ := (collectionEncoder_ok_iff a.1 e a.2.1 a.2.2).2
    ((h.keyIs hs).mono fun _ _ => trivial)
  refine ⟨(a.1.deeper, encodeSource a.1 s, a.1.temp "element"), around, ?_⟩
  rw [encode_collection hs he hnew, haround]
  rfl

/-- A codec in writing reports a cycle if its statements do. -/
theorem isCollectionCycle_iff_of_writes {inner : InnerCodec} {t : CodecTrail}
    {r : Except GenerationError (List Stmt)} (h : Writes inner t r) (w : Writer) :
    IsCollectionCycle (inner w) ↔ IsCollectionCycle r := by
  rw [h w]
  cases r <;> simp [IsCollectionCycle, Except.map]

/-! ## All of them -/

/-- In a complete model the walk for cycles, a provider that has not been called yet, a decoder and
an encoder report the same shapes for collections that contain themselves: those from which edges
between collections lead to such a collection. -/
theorem isCollectionCycle_iff_loops (h : m.IsComplete) (ns : String) (w : Writer) (member : String)
    (source : Expr) (binding : String) (id : ShapeId) :
    let start : CodecWriter := ⟨w, .ofMember member⟩
    (IsCollectionCycle (CycleKind.collection.walk m [] [] id) ↔ m.Loops id) ∧
    (IsCollectionCycle ((Provider.new : Provider m ns).symbolFor id).1 ↔ m.Loops id) ∧
    (IsCollectionCycle (m.writeDecode start id source binding) ↔ m.Loops id) ∧
    (IsCollectionCycle (m.writeEncode start id source binding) ↔ m.Loops id) := by
  intro start
  have hsymbol : ((Provider.new : Provider m ns).symbolFor id).1 = m.symbolFrom ns [] id :=
    (Provider.isFaithful_new.answer rfl (.shape id)).1
  rw [hsymbol,
    isCollectionCycle_iff_of_writes (m.writes_writeDecode start.trail id source binding) w,
    isCollectionCycle_iff_of_writes (m.writes_writeEncode start.trail id source binding) w]
  cases hs : m.shape? id with
  | none =>
    exact ⟨isCollectionCycle_iff_of_undefined hs (CycleKind.walk_undefined (by simp) (by simp) hs),
      isCollectionCycle_iff_of_undefined hs (symbolFrom_undefined (by simp) hs),
      isCollectionCycle_iff_of_undefined hs (decode_undefined hs),
      isCollectionCycle_iff_of_undefined hs (encode_undefined hs)⟩
  | some s =>
    exact ⟨(walk_detects h ⟨s, hs⟩).iff, (symbolFrom_detects h ns [] id ⟨s, hs⟩ (by simp)).iff,
      (decode_detects h ⟨s, hs⟩ _ source binding).iff,
      (encode_detects h ⟨s, hs⟩ _ source binding).iff⟩

/-- A list leads to a map and a list that hold each other. -/
theorem isCollectionCycle_iff_loops_lead_in :
    let holds (name : String) (target : ShapeId) : Member := ⟨name, target, false, []⟩
    let text : Shape := .ofPrimitive .string
    let ring : ShapeId := ⟨"store", "Ring"⟩
    let start : Shape := ⟨⟨"store", "Start"⟩, .list (holds "member" ring), []⟩
    let turn : Shape := ⟨⟨"store", "Turn"⟩, .list (holds "member" ring), []⟩
    let m : Model := ⟨⟨[text, ⟨ring, .map (holds "key" text.id) (holds "value" turn.id), []⟩, start,
      turn], by decide⟩, .empty, .empty⟩
    m.IsComplete ∧ m.Loops start.id ∧
      IsCollectionCycle (m.writeDecode ⟨.new modelNamespace, .ofMember "rings"⟩ start.id
        (.source "value") "rings") := by
  intro holds text ring start turn m
  have hring : m.shape? ring =
      some ⟨ring, .map (holds "key" text.id) (holds "value" turn.id), []⟩ := by
    decide
  have hstart : m.shape? start.id = some start := by decide
  have hturn : m.shape? turn.id = some turn := by decide
  have hcomplete : m.IsComplete := by
    refine ⟨by decide, ?_, ?_⟩
    · rw [List.forall_mem_cons, List.forall_mem_cons]
      refine ⟨.of_not_map (by simp [text, Shape.ofPrimitive]),
        (keyIs_map rfl).2 ⟨text, ?_, rfl⟩, ?_⟩
      · decide
      · exact List.forall_mem_cons.2 ⟨.of_not_map (by simp [start]),
          List.forall_mem_singleton.2 (.of_not_map (by simp [turn]))⟩
    · exact List.forall_mem_cons.2 ⟨fun p _ => ⟨p.symbol, rfl⟩, by simp [start, turn]⟩
  have hloops : m.Loops start.id := by
    have hin : m.Nests start.id ring := ⟨_, _, hstart, rfl, hring, rfl, _, List.mem_cons_self, rfl⟩
    have hout : m.Nests ring turn.id :=
      ⟨_, _, hring, rfl, hturn, rfl, holds "value" turn.id, by decide, rfl⟩
    have hback : m.Nests turn.id ring := ⟨_, _, hturn, rfl, hring, rfl, _, List.mem_cons_self, rfl⟩
    exact ⟨ring, .single hin, .tail (.single hout) hback⟩
  exact ⟨hcomplete, hloops,
    (isCollectionCycle_iff_loops hcomplete modelNamespace _ _ _ _ start.id).2.2.1.2 hloops⟩

end Model

end ClientGen
