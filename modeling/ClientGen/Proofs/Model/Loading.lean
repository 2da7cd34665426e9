import Mathlib.Data.List.Duplicate
import ClientGen.Proofs.Model.RoundTrip

/-!
# Loading the definitions of a document

A catalog takes in what is listed, in whatever order, exactly when no identifier is listed twice. It
then holds the list itself in the order of identifiers, so of two orders of one list it is the same
catalog. The three arrays of a document are loaded apart from each other: a shape, an operation and
a service can have one identifier.
-/

namespace ClientGen

open Identified (idOf)

namespace Catalog

variable {α : Type} [Identified α] {a : α} {c c' : Catalog α}

/-! ## One definition more -/

theorem perm_of_insertSorted? {l l' : List α} (h : insertSorted? a l = some l') :
    l'.Perm (a :: l) := by
  induction l generalizing l' with
  | nil =>
    obtain rfl := Option.some.inj h
    exact .refl _
  | cons b rest ih =>
    rw [insertSorted?] at h
    split at h
    · obtain rfl := Option.some.inj h
      exact .refl _
    · split at h
      · cases h
      · obtain ⟨l, hl, rfl⟩ := Option.map_eq_some_iff.1 h
        exact ((ih hl).cons b).trans (.swap a b rest)

/-- Only an identifier that is taken is in the way. -/
theorem exists_mem_of_insertSorted? {l : List α} (h : insertSorted? a l = none) :
    ∃ b ∈ l, idOf b = idOf a := by
  induction l with
  | nil => cases h
  | cons b rest ih =>
    rw [insertSorted?] at h
    split at h
    · cases h
    · split at h
      · rename_i heq
        exact ⟨b, List.mem_cons_self, heq.symm⟩
      · obtain ⟨x, hx, heq⟩ := ih (Option.map_eq_none_iff.1 h)
        exact ⟨x, List.mem_cons_of_mem _ hx, heq⟩

/-- What a definition more leads to: a catalog of one entry more, whose identifier was free, or a
failure that names the identifier, which was taken. -/
theorem define_cases (c : Catalog α) (a : α) :
    (∃ c', Model.define c a = .ok c' ∧ c'.entries.Perm (a :: c.entries) ∧
      ∀ b ∈ c.entries, idOf a ≠ idOf b) ∨
    Model.define c a = .error (.duplicateDefinition (idOf a)) ∧
      ∃ b ∈ c.entries, idOf b = idOf a := by
  cases hc : c.insert? a with
  | some c' =>
    have hinsert := insertSorted?_of_insert? hc
    exact .inl ⟨c', by rw [Model.define, hc], perm_of_insertSorted? hinsert,
      ne_of_insertSorted? c.sorted hinsert⟩
  | none =>
    refine .inr ⟨by rw [Model.define, hc], exists_mem_of_insertSorted? ?_⟩
    unfold insert? at hc
    split at hc
    · cases hc
    · assumption

/-! ## A list of definitions -/

theorem nodup_ids (c : Catalog α) : (c.entries.map idOf).Nodup := by
  refine List.pairwise_map.2 (c.sorted.imp fun h heq => ?_)
  exact ShapeId.lt_irrefl _ (heq ▸ h)

/-- Sorted by identifiers, definitions have one order. -/
theorem eq_of_perm (h : c.entries.Perm c'.entries) : c = c' := by
  obtain ⟨entries, hsorted⟩ := c
  obtain ⟨entries', hsorted'⟩ := c'
  have hasymm : ∀ a b : α, a ∈ entries → b ∈ entries' → idOf a < idOf b → idOf b < idOf a → a = b :=
    fun a b _ _ hab hba => absurd (ShapeId.lt_trans hab hba) (ShapeId.lt_irrefl _)
  obtain rfl : entries = entries' := h.eq_of_pairwise hasymm hsorted hsorted'
  rfl

/-- A list is taken in if no identifier is listed that is taken, and none twice. The catalog then
holds the list in addition to what it held. -/
theorem foldlM_define_eq_ok {l : List α} :
    l.foldlM Model.define c = .ok c' ↔
      ((c.entries ++ l).map idOf).Nodup ∧ c'.entries.Perm (c.entries ++ l) := by
  induction l generalizing c with
  | nil =>
    rw [List.append_nil]
    constructor
    · intro h
      obtain rfl := Except.ok.inj h
      exact ⟨nodup_ids c, .refl _⟩
    · rintro ⟨-, h⟩
      rw [eq_of_perm h]
      rfl
  | cons a l ih =>
    rw [List.foldlM_cons]
    have hmiddle : (c.entries ++ a :: l).Perm (a :: c.entries ++ l) := List.perm_middle
    rcases define_cases c a with ⟨c₁, hdefine, hperm, -⟩ | ⟨hdefine, b, hb, heq⟩
    · have hfront : (c₁.entries ++ l).Perm (c.entries ++ a :: l) :=
        (hperm.append_right l).trans hmiddle.symm
      rw [hdefine, bind_ok, ih, (hfront.map idOf).nodup_iff]
      exact and_congr_right fun _ => ⟨fun h => h.trans hfront, fun h => h.trans hfront.symm⟩
    · rw [hdefine, bind_error]
      refine iff_of_false (fun h => by cases h) fun ⟨hnodup, _⟩ => ?_
      rw [List.map_append, List.map_cons] at hnodup
      exact (List.nodup_append.1 hnodup).2.2 _ (List.mem_map_of_mem hb) _ List.mem_cons_self heq

/-- A list that is not taken in has an identifier twice, together with what was there. -/
theorem foldlM_define_eq_error {l : List α} {e : ModelError}
    (h : l.foldlM Model.define c = .error e) :
    ∃ id, e = .duplicateDefinition id ∧ List.Duplicate id ((c.entries ++ l).map idOf) := by
  induction l generalizing c with
  | nil => cases h
  | cons a l ih =>
    rw [List.foldlM_cons] at h
    have hmiddle : (c.entries ++ a :: l).Perm (a :: c.entries ++ l) := List.perm_middle
    rcases define_cases c a with ⟨c₁, hdefine, hperm, -⟩ | ⟨hdefine, b, hb, heq⟩
    · rw [hdefine, bind_ok] at h
      obtain ⟨id, rfl, hid⟩ := ih h
      have hfront : (c₁.entries ++ l).Perm (c.entries ++ a :: l) :=
        (hperm.append_right l).trans hmiddle.symm
      refine ⟨id, rfl, ?_⟩
      rw [List.duplicate_iff_two_le_count] at hid ⊢
      exact (hfront.map idOf).count_eq id ▸ hid
    · rw [hdefine, bind_error] at h
      obtain rfl := Except.error.inj h
      refine ⟨idOf a, rfl, ?_⟩
      have htwice : List.Duplicate (idOf a) ((a :: c.entries ++ l).map idOf) :=
        (List.duplicate_cons_self_iff).2
          (List.mem_map.2 ⟨b, List.mem_append_left _ hb, heq⟩)
      rw [List.duplicate_iff_two_le_count] at htwice ⊢
      exact (hmiddle.map idOf).count_eq (idOf a) ▸ htwice

/-- A lookup gives the one entry with the identifier. -/
theorem get?_eq_some_iff {id : ShapeId} : c.get? id = some a ↔ a ∈ c.entries ∧ idOf a = id := by
  constructor
  · intro h
    exact ⟨List.mem_of_find?_eq_some h,
      of_decide_eq_true (List.find?_some (p := fun x => decide (idOf x = id)) h)⟩
  · rintro ⟨ha, rfl⟩
    obtain ⟨b, hb⟩ : ∃ b, c.get? (idOf a) = some b := by
      refine Option.isSome_iff_exists.1 (List.find?_isSome.2 ⟨a, ha, decide_eq_true rfl⟩)
    have hid : idOf b = idOf a :=
      of_decide_eq_true (List.find?_some (p := fun x => decide (idOf x = idOf a)) hb)
    rw [hb, List.inj_on_of_nodup_map (nodup_ids c) (List.mem_of_find?_eq_some hb) ha hid]

end Catalog

/-! ## The three arrays of a document -/

open Decode (Lists)

/-- No identifier stands twice in one array. -/
structure Decode.Lists.HaveDistinctIds (d : Lists) : Prop where
  shapes : (d.shapes.map Shape.id).Nodup
  operations : (d.operations.map Operation.id).Nodup
  services : (d.services.map Service.id).Nodup

/-- The identifier stands twice in one array. -/
inductive Decode.Lists.ListsTwice (d : Lists) (id : ShapeId) : Prop
  | shape (h : List.Duplicate id (d.shapes.map Shape.id))
  | operation (h : List.Duplicate id (d.operations.map Operation.id))
  | service (h : List.Duplicate id (d.services.map Service.id))

/-- Documents with the same definitions, in whatever order. -/
structure Decode.Lists.Perm (d d' : Lists) : Prop where
  shapes : d.shapes.Perm d'.shapes
  operations : d.operations.Perm d'.operations
  services : d.services.Perm d'.services

structure Model.HoldsLists (m : Model) (d : Lists) : Prop where
  shapes : m.shapes.entries.Perm d.shapes
  operations : m.operations.entries.Perm d.operations
  services : m.services.entries.Perm d.services

namespace Model

variable {d d' : Lists} {m : Model}

/-- Each array is loaded into a catalog of its own. -/
theorem ofDocument_eq (d : Lists) : ofDocument d =
    d.shapes.foldlM define .empty >>= fun shapes =>
      d.operations.foldlM define .empty >>= fun operations =>
        (d.services.foldlM define .empty).map (Model.mk shapes operations) := by
  have hshapes : d.shapes.foldlM insertShape empty =
      (d.shapes.foldlM define .empty).map fun c => ⟨c, .empty, .empty⟩ :=
    foldlM_part (p := fun c => (⟨c, .empty, .empty⟩ : Model)) (fun _ _ => rfl) d.shapes .empty
  have hoperations (c : Catalog Shape) : d.operations.foldlM insertOperation ⟨c, .empty, .empty⟩ =
      (d.operations.foldlM define .empty).map fun o => ⟨c, o, .empty⟩ :=
    foldlM_part (p := fun o => (⟨c, o, .empty⟩ : Model)) (fun _ _ => rfl) d.operations .empty
  have hservices (c : Catalog Shape) (o : Catalog Operation) :
      d.services.foldlM insertService ⟨c, o, .empty⟩ =
        (d.services.foldlM define .empty).map (Model.mk c o) :=
    foldlM_part (p := Model.mk c o) (fun _ _ => rfl) d.services .empty
  rw [ofDocument, ofLists, insertAll, hshapes]
  cases d.shapes.foldlM define .empty with
  | error e => rfl
  | ok c =>
    rw [Except.map, bind_ok, bind_ok, hoperations]
    cases d.operations.foldlM define .empty with
    | error e => rfl
    | ok o => rw [Except.map, bind_ok, bind_ok, hservices]

/-- A model is loaded from a document that has no identifier twice in an array, and holds what the
document lists. -/
theorem ofDocument_eq_ok : ofDocument d = .ok m ↔ d.HaveDistinctIds ∧ m.HoldsLists d := by
  rw [ofDocument_eq]
  constructor
  · intro h
    obtain ⟨shapes, hshapes, h⟩ := bind_eq_ok.1 h
    obtain ⟨operations, hoperations, h⟩ := bind_eq_ok.1 h
    obtain ⟨services, hservices, rfl⟩ := map_eq_ok.1 h
    obtain ⟨hs, hshapes⟩ := Catalog.foldlM_define_eq_ok.1 hshapes
    obtain ⟨ho, hoperations⟩ := Catalog.foldlM_define_eq_ok.1 hoperations
    obtain ⟨hv, hservices⟩ := Catalog.foldlM_define_eq_ok.1 hservices
    exact ⟨⟨hs, ho, hv⟩, hshapes, hoperations, hservices⟩
  · rintro ⟨hids, hholds⟩
    have hshapes : d.shapes.foldlM define .empty = .ok m.shapes :=
      Catalog.foldlM_define_eq_ok.2 ⟨hids.shapes, hholds.shapes⟩
    have hoperations : d.operations.foldlM define .empty = .ok m.operations :=
      Catalog.foldlM_define_eq_ok.2 ⟨hids.operations, hholds.operations⟩
    have hservices : d.services.foldlM define .empty = .ok m.services :=
      Catalog.foldlM_define_eq_ok.2 ⟨hids.services, hholds.services⟩
    rw [hshapes, bind_ok, hoperations, bind_ok, hservices]
    rfl

/-- Loading fails over an identifier that stands twice in an array. -/
theorem ofDocument_eq_error {e : ModelError} (h : ofDocument d = .error e) :
    ∃ id, e = .duplicateDefinition id ∧ d.ListsTwice id := by
  rw [ofDocument_eq] at h
  cases hshapes : d.shapes.foldlM define .empty with
  | error e' =>
    rw [hshapes] at h
    obtain rfl := Except.error.inj h
    obtain ⟨id, he, hid⟩ := Catalog.foldlM_define_eq_error hshapes
    exact ⟨id, he, .shape hid⟩
  | ok shapes =>
    rw [hshapes, bind_ok] at h
    cases hoperations : d.operations.foldlM define .empty with
    | error e' =>
      rw [hoperations] at h
      obtain rfl := Except.error.inj h
      obtain ⟨id, he, hid⟩ := Catalog.foldlM_define_eq_error hoperations
      exact ⟨id, he, .operation hid⟩
    | ok operations =>
      rw [hoperations, bind_ok] at h
      cases hservices : d.services.foldlM define .empty with
      | error e' =>
        rw [hservices] at h
        obtain rfl := Except.error.inj h
        obtain ⟨id, he, hid⟩ := Catalog.foldlM_define_eq_error hservices
        exact ⟨id, he, .service hid⟩
      | ok services =>
        rw [hservices] at h
        cases h

/-- Where an identifier stands twice, the identifiers are not distinct. -/
theorem not_haveDistinctIds_of_listsTwice {id : ShapeId} (h : d.ListsTwice id) :
    ¬ d.HaveDistinctIds := by
  intro hids
  cases h with
  | shape h => exact h.not_nodup hids.shapes
  | operation h => exact h.not_nodup hids.operations
  | service h => exact h.not_nodup hids.services

theorem exists_ofDocument_eq_ok : (∃ m, ofDocument d = .ok m) ↔ d.HaveDistinctIds := by
  constructor
  · rintro ⟨m, hm⟩
    exact (ofDocument_eq_ok.1 hm).1
  · intro hids
    cases hd : ofDocument d with
    | ok m => exact ⟨m, rfl⟩
    | error e =>
      obtain ⟨id, -, hid⟩ := ofDocument_eq_error hd
      exact absurd hids (not_haveDistinctIds_of_listsTwice hid)

theorem haveDistinctIds_iff_of_perm (h : d.Perm d') :
    d.HaveDistinctIds ↔ d'.HaveDistinctIds := by
  have hs := (h.shapes.map Shape.id).nodup_iff
  have ho := (h.operations.map Operation.id).nodup_iff
  have hv := (h.services.map Service.id).nodup_iff
  exact ⟨fun hids => ⟨hs.1 hids.shapes, ho.1 hids.operations, hv.1 hids.services⟩,
    fun hids => ⟨hs.2 hids.shapes, ho.2 hids.operations, hv.2 hids.services⟩⟩

theorem HoldsLists.of_perm (hm : m.HoldsLists d) (h : d.Perm d') : m.HoldsLists d' :=
  ⟨hm.shapes.trans h.shapes, hm.operations.trans h.operations, hm.services.trans h.services⟩

/-- Each lookup gives the definition of the document that has the identifier. -/
structure LooksUp (m : Model) (d : Lists) : Prop where
  shape : ∀ id s, m.shape? id = some s ↔ s ∈ d.shapes ∧ s.id = id
  operation : ∀ id o, m.operation? id = some o ↔ o ∈ d.operations ∧ o.id = id
  service : ∀ id v, m.service? id = some v ↔ v ∈ d.services ∧ v.id = id

theorem HoldsLists.looksUp (h : m.HoldsLists d) : m.LooksUp d where
  shape _ _ := Catalog.get?_eq_some_iff.trans (and_congr_left' h.shapes.mem_iff)
  operation _ _ := Catalog.get?_eq_some_iff.trans (and_congr_left' h.operations.mem_iff)
  service _ _ := Catalog.get?_eq_some_iff.trans (and_congr_left' h.services.mem_iff)

/-- The order of a document does not matter. Two orders of it give one model, or both fail over an
identifier that stands twice in an array; no such identifier is all that loading asks for, and the
model then looks up the definitions of the document. -/
theorem ofDocument_of_perm (h : d.Perm d') :
    ((∃ m, ofDocument d = .ok m ∧ ofDocument d' = .ok m) ∨
      (∃ id, d.ListsTwice id ∧ ofDocument d = .error (.duplicateDefinition id)) ∧
        ∃ id, d'.ListsTwice id ∧ ofDocument d' = .error (.duplicateDefinition id)) ∧
    ((∃ m, ofDocument d = .ok m) ↔ d.HaveDistinctIds) ∧
    ∀ m, ofDocument d = .ok m → m.LooksUp d := by
  refine ⟨?_, exists_ofDocument_eq_ok, fun m hm => (ofDocument_eq_ok.1 hm).2.looksUp⟩
  cases hd : ofDocument d with
  | ok m =>
    obtain ⟨hids, hholds⟩ := ofDocument_eq_ok.1 hd
    exact .inl ⟨m, rfl, ofDocument_eq_ok.2
      ⟨(haveDistinctIds_iff_of_perm h).1 hids, hholds.of_perm h⟩⟩
  | error e =>
    cases hd' : ofDocument d' with
    | ok m =>
      have hids := (haveDistinctIds_iff_of_perm h).2 (ofDocument_eq_ok.1 hd').1
      obtain ⟨id, -, hid⟩ := ofDocument_eq_error hd
      exact absurd hids (not_haveDistinctIds_of_listsTwice hid)
    | error e' =>
      obtain ⟨id, rfl, hid⟩ := ofDocument_eq_error hd
      obtain ⟨id', rfl, hid'⟩ := ofDocument_eq_error hd'
      exact .inr ⟨⟨id, hid, rfl⟩, id', hid', rfl⟩

/-- The document of a store, in which a shape, an operation and a service have one identifier. -/
def storeLists : Lists where
  shapes := [⟨⟨"a", "Store"⟩, .structure [], []⟩, ⟨⟨"a", "Items"⟩, .enum [], []⟩]
  operations := [⟨⟨"a", "Store"⟩, none, none, none, none⟩]
  services := [⟨⟨"a", "Store"⟩, "1", [⟨"a", "Store"⟩], none, none⟩]

/-- The same document with the shapes in the other order. -/
def storeListsReversed : Lists := { storeLists with shapes := storeLists.shapes.reverse }

theorem ofDocument_storeLists : storeLists.Perm storeListsReversed ∧
    storeLists ≠ storeListsReversed ∧
    ∃ m, ofDocument storeLists = .ok m ∧ ofDocument storeListsReversed = .ok m ∧
      m.shape? ⟨"a", "Store"⟩ = some ⟨⟨"a", "Store"⟩, .structure [], []⟩ ∧
      m.operation? ⟨"a", "Store"⟩ = some ⟨⟨"a", "Store"⟩, none, none, none, none⟩ := by
  have hperm : storeLists.Perm storeListsReversed :=
    ⟨(List.reverse_perm _).symm, .refl _, .refl _⟩
  have hids : storeLists.HaveDistinctIds := ⟨by decide, by decide, by decide⟩
  obtain ⟨horder, -, hlookup⟩ := ofDocument_of_perm hperm
  refine ⟨hperm, by decide, ?_⟩
  rcases horder with ⟨m, hm, hm'⟩ | ⟨⟨id, hid, -⟩, -⟩
  · have hm'' := hlookup m hm
    exact ⟨m, hm, hm', (hm''.shape _ _).2 ⟨List.mem_cons_self, rfl⟩,
      (hm''.operation _ _).2 ⟨List.mem_cons_self, rfl⟩⟩
  · exact absurd hids (not_haveDistinctIds_of_listsTwice hid)

end Model

end ClientGen
