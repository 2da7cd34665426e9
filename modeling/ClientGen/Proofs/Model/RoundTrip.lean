import ClientGen.Proofs.Model.Insertion
import ClientGen.Proofs.Model.Rereading

/-!
# Models that are written and loaded again

A model that was loaded from a document is loaded again from the document that is written of it: its
definitions were read at the depth at which they are written, and in the order of their identifiers
they are the same definitions.
-/

namespace ClientGen

open Identified (idOf)
open Json

/-! ## Catalogs -/

namespace Catalog

variable {α : Type} [Identified α] {a : α} {c c' : Catalog α}

theorem mem_of_insert? (h : c.insert? a = some c') {x : α} (hx : x ∈ c'.entries) :
    x = a ∨ x ∈ c.entries :=
  (mem_of_insertSorted? (insertSorted?_of_insert? h)).1 hx

/-- What comes behind all others is put at the end. -/
theorem insertSorted?_of_forall_lt {l : List α} (h : ∀ b ∈ l, idOf b < idOf a) :
    insertSorted? a l = some (l ++ [a]) := by
  induction l with
  | nil => rfl
  | cons b l ih =>
    have hb := h b List.mem_cons_self
    have hnot : ¬ idOf a < idOf b := fun hlt => ShapeId.lt_irrefl _ (ShapeId.lt_trans hlt hb)
    have hne : idOf a ≠ idOf b := fun heq => ShapeId.lt_irrefl _ (heq ▸ hb)
    rw [insertSorted?, if_neg hnot, if_neg hne, ih fun x hx => h x (List.mem_cons_of_mem _ hx)]
    rfl

theorem insert?_of_sorted (h : (c.entries ++ [a]).Pairwise fun a b => idOf a < idOf b) :
    c.insert? a = some ⟨c.entries ++ [a], h⟩ := by
  have hlast : ∀ b ∈ c.entries, idOf b < idOf a := fun b hb =>
    (List.pairwise_append.1 h).2.2 b hb a (List.mem_singleton.2 rfl)
  unfold insert?
  split
  · rename_i entries hentries
    obtain rfl := Option.some.inj (hentries.symm.trans (insertSorted?_of_forall_lt hlast))
    rfl
  · rename_i hnone
    cases hnone.symm.trans (insertSorted?_of_forall_lt hlast)

/-- Definitions in order are put one behind the other. -/
theorem foldlM_define {rest : List α}
    (h : (c.entries ++ rest).Pairwise fun a b => idOf a < idOf b) :
    rest.foldlM Model.define c = .ok ⟨c.entries ++ rest, h⟩ := by
  induction rest generalizing c with
  | nil =>
    obtain ⟨entries, hentries⟩ := c
    simp only [List.append_nil]
    rfl
  | cons a rest ih =>
    have hsplit : c.entries ++ a :: rest = (c.entries ++ [a]) ++ rest := by simp
    have hfront : (c.entries ++ [a]).Pairwise fun a b => idOf a < idOf b :=
      (List.pairwise_append.1 (hsplit ▸ h)).1
    rw [List.foldlM_cons, Model.define, insert?_of_sorted hfront, bind_ok,
      ih (c := ⟨c.entries ++ [a], hfront⟩) (hsplit ▸ h)]
    simp only [hsplit]

theorem foldlM_define_entries (c : Catalog α) : c.entries.foldlM Model.define .empty = .ok c :=
  foldlM_define (c := .empty) c.sorted

end Catalog

/-! ## Models -/

namespace Model

variable {m m' : Model} {shapes : List Shape} {operations : List Operation}
  {services : List Service}

/-- Nothing is defined in `m'` that neither was in `m` nor is one of these. -/
structure GrowsBy (shapes : List Shape) (operations : List Operation) (services : List Service)
    (m m' : Model) : Prop where
  shape : ∀ s ∈ m'.shapes.entries, s ∈ m.shapes.entries ∨ s ∈ shapes
  operation : ∀ o ∈ m'.operations.entries, o ∈ m.operations.entries ∨ o ∈ operations
  service : ∀ v ∈ m'.services.entries, v ∈ m.services.entries ∨ v ∈ services

theorem GrowsBy.refl (m : Model) : GrowsBy shapes operations services m m :=
  ⟨fun _ => .inl, fun _ => .inl, fun _ => .inl⟩

theorem GrowsBy.trans (m₁ m₂ m₃ : Model) (h : GrowsBy shapes operations services m₁ m₂)
    (h' : GrowsBy shapes operations services m₂ m₃) :
    GrowsBy shapes operations services m₁ m₃ where
  shape s hs := (h'.shape s hs).elim (h.shape s) .inr
  operation o ho := (h'.operation o ho).elim (h.operation o) .inr
  service v hv := (h'.service v hv).elim (h.service v) .inr

theorem growsBy_insertShape {s : Shape} (hs : s ∈ shapes) (h : m.insertShape s = .ok m') :
    GrowsBy shapes operations services m m' := by
  obtain ⟨c, hc, rfl⟩ := map_eq_ok.1 h
  refine ⟨fun x hx => ?_, fun _ => .inl, fun _ => .inl⟩
  rcases Catalog.mem_of_insert? (define_eq_ok hc) hx with rfl | hx
  · exact .inr hs
  · exact .inl hx

theorem growsBy_insertOperation {o : Operation} (ho : o ∈ operations)
    (h : m.insertOperation o = .ok m') : GrowsBy shapes operations services m m' := by
  obtain ⟨c, hc, rfl⟩ := map_eq_ok.1 h
  refine ⟨fun _ => .inl, fun x hx => ?_, fun _ => .inl⟩
  rcases Catalog.mem_of_insert? (define_eq_ok hc) hx with rfl | hx
  · exact .inr ho
  · exact .inl hx

theorem growsBy_insertService {v : Service} (hv : v ∈ services)
    (h : m.insertService v = .ok m') : GrowsBy shapes operations services m m' := by
  obtain ⟨c, hc, rfl⟩ := map_eq_ok.1 h
  refine ⟨fun _ => .inl, fun _ => .inl, fun x hx => ?_⟩
  rcases Catalog.mem_of_insert? (define_eq_ok hc) hx with rfl | hx
  · exact .inr hv
  · exact .inl hx

theorem growsBy_insertAll (h : m.insertAll shapes operations services = .ok m') :
    GrowsBy shapes operations services m m' := by
  obtain ⟨first, hfirst, h⟩ := bind_eq_ok.1 h
  obtain ⟨second, hsecond, hthird⟩ := bind_eq_ok.1 h
  have hone := foldlM_ok_rel (R := GrowsBy shapes operations services) .refl .trans
    (fun s hs _ _ => growsBy_insertShape hs) hfirst
  have htwo := foldlM_ok_rel (R := GrowsBy shapes operations services) .refl .trans
    (fun o ho _ _ => growsBy_insertOperation ho) hsecond
  have hthree := foldlM_ok_rel (R := GrowsBy shapes operations services) .refl .trans
    (fun v hv _ _ => growsBy_insertService hv) hthird
  exact (hone.trans _ _ _ htwo).trans _ _ _ hthree

/-- Insertions into one part of something change that part alone. -/
theorem foldlM_part {α γ : Type} [Identified α] {f : γ → α → Except ModelError γ}
    {p : Catalog α → γ} (h : ∀ c a, f (p c) a = (define c a).map p) (l : List α)
    (c : Catalog α) : l.foldlM f (p c) = (l.foldlM define c).map p := by
  induction l generalizing c with
  | nil => rfl
  | cons a l ih =>
    rw [List.foldlM_cons, List.foldlM_cons, h]
    cases define c a with
    | error e => rfl
    | ok c' => exact ih c'

theorem foldlM_part_entries {α γ : Type} [Identified α] {f : γ → α → Except ModelError γ}
    {p : Catalog α → γ} (h : ∀ c a, f (p c) a = (define c a).map p) (c : Catalog α) :
    c.entries.foldlM f (p .empty) = .ok (p c) := by
  rw [foldlM_part h, Catalog.foldlM_define_entries]
  rfl

/-- A model is made up of its definitions. -/
theorem ofLists_entries (m : Model) :
    ofLists m.shapes.entries m.operations.entries m.services.entries = .ok m := by
  let putShapes (c : Catalog Shape) : Model := ⟨c, .empty, .empty⟩
  let putOperations (c : Catalog Operation) : Model := ⟨m.shapes, c, .empty⟩
  let putServices (c : Catalog Service) : Model := ⟨m.shapes, m.operations, c⟩
  have hshapes : m.shapes.entries.foldlM insertShape empty = .ok (putShapes m.shapes) :=
    foldlM_part_entries (p := putShapes) (fun _ _ => rfl) m.shapes
  have hoperations : m.operations.entries.foldlM insertOperation (putShapes m.shapes) =
      .ok (putOperations m.operations) :=
    foldlM_part_entries (p := putOperations) (fun _ _ => rfl) m.operations
  have hservices : m.services.entries.foldlM insertService (putOperations m.operations) = .ok m :=
    foldlM_part_entries (p := putServices) (fun _ _ => rfl) m.services
  rw [ofLists, insertAll, hshapes, bind_ok, hoperations, bind_ok, hservices]

end Model

/-! ## Documents without doubles -/

/-- No default among the traits has a double in it. -/
def Traits.HaveExactDefaults (ts : Traits) : Prop :=
  ∀ v, Trait.default v ∈ ts → v.isExact = true

theorem isExact_traits_field {ts : Traits} (h : ts.HaveExactDefaults) :
    ∀ f ∈ ts.field, f.2.isExact = true := by
  intro f hf
  unfold Traits.field at hf
  split at hf
  · cases hf
  · obtain rfl := List.mem_singleton.1 hf
    refine Value.areExact_iff.2 fun v hv => ?_
    obtain ⟨t, ht, rfl⟩ := List.mem_map.1 hv
    cases t with
    | default v => simp [Trait.toJson, Value.isExact, Value.areExactFields, h v ht]
    | _ => rfl

theorem isExact_member {e : Member} (h : e.traits.HaveExactDefaults) :
    e.toJson.isExact = true := by
  refine Value.areExactFields_iff.2 fun f hf => ?_
  rcases List.mem_append.1 hf with hf | hf
  · simp only [List.mem_cons, List.not_mem_nil, or_false] at hf
    rcases hf with rfl | rfl | rfl <;> rfl
  · exact isExact_traits_field h f hf

theorem isExact_kind {s : Shape} (h : ∀ e ∈ s.edges, e.traits.HaveExactDefaults) :
    s.kind.toJson.isExact = true := by
  unfold Shape.edges at h
  cases hkind : s.kind with
  | «structure» ms | union ms =>
    rw [hkind] at h
    have hall : Value.areExact (ms.map Member.toJson) = true := by
      refine Value.areExact_iff.2 fun v hv => ?_
      obtain ⟨e, he, rfl⟩ := List.mem_map.1 hv
      exact isExact_member (h e he)
    simp [ShapeKind.toJson, Value.isExact, Value.areExactFields, hall]
  | list e | set e =>
    rw [hkind] at h
    have he := isExact_member (h e (List.mem_singleton.2 rfl))
    simp [ShapeKind.toJson, Value.isExact, Value.areExactFields, he]
  | map k v =>
    rw [hkind] at h
    have hk := isExact_member (h k List.mem_cons_self)
    have hv := isExact_member (h v (List.mem_cons_of_mem _ List.mem_cons_self))
    simp [ShapeKind.toJson, Value.isExact, Value.areExactFields, hk, hv]
  | primitive p => rfl
  | enum vs =>
    have hall : Value.areExact (vs.map EnumValue.toJson) = true := by
      refine Value.areExact_iff.2 fun v hv => ?_
      obtain ⟨e, -, rfl⟩ := List.mem_map.1 hv
      rfl
    simp [ShapeKind.toJson, Value.isExact, Value.areExactFields, hall]

theorem isExact_shape {s : Shape} (htraits : s.traits.HaveExactDefaults)
    (hedges : ∀ e ∈ s.edges, e.traits.HaveExactDefaults) : s.toJson.isExact = true := by
  refine Value.areExactFields_iff.2 fun f hf => ?_
  rcases List.mem_append.1 hf with hf | hf
  · simp only [List.mem_cons, List.not_mem_nil, or_false] at hf
    rcases hf with rfl | rfl
    · rfl
    · exact isExact_kind hedges
  · exact isExact_traits_field htraits f hf

theorem isExact_nullable {α : Type} {print : α → Value} (h : ∀ a, (print a).isExact = true)
    (o : Option α) : (nullable (o.map print)).isExact = true := by
  cases o with
  | none => rfl
  | some a => exact h a

theorem isExact_operation (o : Operation) : o.toJson.isExact = true := by
  have hid : ∀ id : ShapeId, (Value.string id.text).isExact = true := fun _ => rfl
  have hhttp : ∀ h : HttpBinding, h.toJson.isExact = true := fun _ => rfl
  have htext : ∀ t, (Value.string t).isExact = true := fun _ => rfl
  simp [Operation.toJson, Value.isExact, Value.areExactFields, isExact_nullable hid,
    isExact_nullable hhttp, isExact_nullable htext]

theorem isExact_service (v : Service) : v.toJson.isExact = true := by
  have hprotocol : ∀ p : Protocol, (Value.string p.text).isExact = true := fun _ => rfl
  have htext : ∀ t, (Value.string t).isExact = true := fun _ => rfl
  have hoperations : Value.areExact (v.operations.map fun i => .string i.text) = true := by
    refine Value.areExact_iff.2 fun w hw => ?_
    obtain ⟨i, -, rfl⟩ := List.mem_map.1 hw
    rfl
  simp [Service.toJson, Value.isExact, Value.areExactFields, isExact_nullable hprotocol,
    isExact_nullable htext, hoperations]

namespace Model

/-- No default of a shape or of one of its members has a double in it. -/
def HasExactDefaults (m : Model) : Prop :=
  ∀ s ∈ m.shapes.entries, s.traits.HaveExactDefaults ∧
    ∀ e ∈ s.edges, e.traits.HaveExactDefaults

variable {m : Model}

theorem isExact_toDocument (h : m.HasExactDefaults) : m.toDocument.isExact = true := by
  have hshapes : Value.areExact (m.shapes.entries.map Shape.toJson) = true := by
    refine Value.areExact_iff.2 fun v hv => ?_
    obtain ⟨s, hs, rfl⟩ := List.mem_map.1 hv
    exact isExact_shape (h s hs).1 (h s hs).2
  have hoperations : Value.areExact (m.operations.entries.map Operation.toJson) = true := by
    refine Value.areExact_iff.2 fun v hv => ?_
    obtain ⟨o, -, rfl⟩ := List.mem_map.1 hv
    exact isExact_operation o
  have hservices : Value.areExact (m.services.entries.map Service.toJson) = true := by
    refine Value.areExact_iff.2 fun v hv => ?_
    obtain ⟨v, -, rfl⟩ := List.mem_map.1 hv
    exact isExact_service v
  simp [toDocument, Value.isExact, Value.areExactFields, hshapes, hoperations, hservices]

/-! ## Reading documents back -/

/-- What stands in an array of a document was read two containers further in. -/
theorem exists_read_of_mem {α σ β : Type} {form : RecordForm σ β} {d : Decoder α} {s : σ}
    {g : σ → Option (List α)} {inner : Nat} (h : form.Reached (inner + 2) s)
    (hstart : g form.start = none) (hfields : ∀ f ∈ form.fields, f.Fills g (.list d)) {a : α}
    (ha : a ∈ (g s).getD []) : ∃ v, d (inner + 1) v = .ok a := by
  cases hg : g s with
  | none =>
    rw [hg] at ha
    cases ha
  | some as =>
    rw [hg] at ha
    obtain ⟨node, hnode⟩ := h.exists_read hstart hfields hg
    -- The document is one container and the array in it is another.
    obtain ⟨depth, hdepth, hread⟩ := Decoder.list_ok hnode
    obtain rfl : depth = inner := by omega
    exact hread a ha

/-- The definitions of a document were read where 126 more containers may be entered. -/
theorem exists_read_lists {d : Decode.Lists} {node : Node}
    (h : Decode.lists nestingLimit node = .ok d) :
    (∀ s ∈ d.shapes, ∃ v, Decode.shape 126 v = .ok s) ∧
    (∀ o ∈ d.operations, ∃ v, Decode.operation 126 v = .ok o) ∧
    ∀ x ∈ d.services, ∃ v, Decode.service 126 v = .ok x := by
  obtain ⟨inner, s, hdepth, hs, hfinish⟩ := RecordForm.decoder_ok h
  obtain rfl : inner = 126 := by
    have hlimit : nestingLimit = 128 := rfl
    omega
  have hread := RecordForm.finish_ok hfinish
  obtain rfl := Option.some.inj hread
  refine ⟨fun x hx => ?_, fun x hx => ?_, fun x hx => ?_⟩
  · exact exists_read_of_mem (g := (·.1)) hs rfl (by simp) hx
  · exact exists_read_of_mem (g := (·.2.1)) hs rfl (by simp) hx
  · exact exists_read_of_mem (g := (·.2.2)) hs rfl (by simp) hx

/-- The document of a model is read as its definitions, if each of these can be read there. -/
theorem lists_toDocument (hexact : m.HasExactDefaults)
    (hshapes : ∀ s ∈ m.shapes.entries, ∃ v, Decode.shape 126 v = .ok s)
    (hoperations : ∀ o ∈ m.operations.entries, ∃ v, Decode.operation 126 v = .ok o)
    (hservices : ∀ x ∈ m.services.entries, ∃ v, Decode.service 126 v = .ok x) :
    Decode.lists nestingLimit m.toDocument.node =
      .ok ⟨m.shapes.entries, m.operations.entries, m.services.entries⟩ := by
  have hs : Decoder.list Decode.shape 127 (Value.array (m.shapes.entries.map Shape.toJson)).node =
      .ok m.shapes.entries := by
    refine Decoder.list_node fun s hs => ?_
    obtain ⟨v, hv⟩ := hshapes s hs
    exact Decode.rereads_shape _ v s hv (isExact_shape (hexact s hs).1 (hexact s hs).2)
  have ho : Decoder.list Decode.operation 127
      (Value.array (m.operations.entries.map Operation.toJson)).node =
        .ok m.operations.entries := by
    refine Decoder.list_node fun o ho => ?_
    obtain ⟨v, hv⟩ := hoperations o ho
    exact Decode.rereads_operation _ v o hv (isExact_operation o)
  have hx : Decoder.list Decode.service 127
      (Value.array (m.services.entries.map Service.toJson)).node = .ok m.services.entries := by
    refine Decoder.list_node fun x hx => ?_
    obtain ⟨v, hv⟩ := hservices x hx
    exact Decode.rereads_service _ v x hv (isExact_service x)
  refine RecordForm.decoder_node 126 ?_
  rw [Decode.readEntries_field rfl rfl hs, Decode.readEntries_field rfl rfl ho,
    Decode.readEntries_field rfl rfl hx]
  rfl

/-- A text of a value without doubles is read like the tree of the value. -/
theorem run_pretty {α : Type} {d : Decoder α} {v : Value} (h : v.isExact = true) :
    d.run v.pretty = d nestingLimit v.node := by
  rw [Decoder.run, Value.ofText_pretty h]
  dsimp only
  cases d nestingLimit v.node <;> rfl

theorem run_ok {α : Type} {d : Decoder α} {text : String} {a : α} (h : d.run text = .ok a) :
    d nestingLimit (Document.ofText text).root = .ok a := by
  obtain ⟨b, hb, h⟩ := bind_eq_ok.1 h
  split at h
  · cases h
  · rw [hb, Except.ok.inj h]

/-- A model that was loaded and has no doubles in its defaults is loaded from its own document. -/
theorem ofJson_toJson {text : String} (h : ofJson text = .ok m) (hexact : m.HasExactDefaults) :
    ofJson m.toJson = .ok m := by
  unfold ofJson at h
  split at h
  · rename_i d hread
    obtain ⟨hshapes, hoperations, hservices⟩ := exists_read_lists (run_ok hread)
    -- All that the model defines came out of the document, so it was read there.
    have hgrows := growsBy_insertAll h
    have hagain : Decode.lists.run m.toJson =
        .ok ⟨m.shapes.entries, m.operations.entries, m.services.entries⟩ := by
      rw [toJson, run_pretty (isExact_toDocument hexact)]
      refine lists_toDocument hexact (fun s hs => ?_) (fun o ho => ?_) fun x hx => ?_
      · exact hshapes s ((hgrows.shape s hs).resolve_left nofun)
      · exact hoperations o ((hgrows.operation o ho).resolve_left nofun)
      · exact hservices x ((hgrows.service x hx).resolve_left nofun)
    rw [ofJson, hagain]
    exact ofLists_entries m
  · cases h

/-- A shape that was written as an array, with a default whose fields are out of order. -/
theorem ofJson_toJson_item :
    let written : Value := .object [("shapes", .array [.array [.string "store#Item",
      .object [("structure", .object [("members", .array [.object [
        ("target", .string "stencil.api#Document"), ("name", .string "note"),
        ("traits", .array [.object [("default", .object [("b", .number (.integer (-2))),
          ("a", .null)])]])]])])]]])]
    let note : Member := ⟨"note", .prelude "Document", false,
      [.default (.object [("a", .null), ("b", .number (.integer (-2)))])]⟩
    let m : Model := ⟨⟨[⟨⟨"store", "Item"⟩, .structure [note], []⟩], by decide⟩, .empty, .empty⟩
    ofJson written.pretty = .ok m ∧ m.HasExactDefaults ∧ ofJson m.toJson = .ok m := by
  intro written note m
  have hread : Decode.lists nestingLimit written.node = .ok ⟨m.shapes.entries, [], []⟩ := rfl
  have hload : ofJson written.pretty = .ok m := by
    rw [ofJson, run_pretty rfl, hread]
    exact ofLists_entries m
  have hexact : m.HasExactDefaults := by
    intro s hs
    obtain rfl := List.mem_singleton.1 hs
    refine ⟨nofun, fun e he v hv => ?_⟩
    obtain rfl := List.mem_singleton.1 he
    obtain rfl := Trait.default.inj (List.mem_singleton.1 hv)
    rfl
  exact ⟨hload, hexact, ofJson_toJson hload hexact⟩

end Model

end ClientGen
