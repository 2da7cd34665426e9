import ClientGen.Crate.Types
import ClientGen.Proofs.Graph.CycleReports
import ClientGen.Proofs.Graph.Reached
import Mathlib.Data.List.Nodup
import Mathlib.Data.List.Pairwise

/-!
# The types that the module of the data types defines

A structure or union has a type and a type for its keys, and an enum has a type. Their names are
made of the names of the shapes without their namespaces, in Pascal case. The checks compare the
names of the members of one shape and never those of two shapes; so whether the module defines a
type twice is decided by the shapes whose names become one.
-/

namespace ClientGen

/-! ## What is defined -/

def Item.definedType? : Item → Option String
  | .struct _ _ name _ | .enum _ _ name _ => some name
  | .interface .. | .impl .. | .need _ => none

/-- The names of the types that a module defines, in their order. -/
def Module.definedTypes (t : Module) : List String := t.items.filterMap Item.definedType?

namespace Shape

/-- Whether a type is generated for the shape. -/
def hasType (s : Shape) : Bool :=
  match s.kind with
  | .structure _ | .union _ | .enum _ => true
  | .list _ | .set _ | .map .. | .primitive _ => false

/-- The names of the types that are generated for the shape. -/
def definedTypes (s : Shape) : List String :=
  match s.kind with
  | .structure _ | .union _ => [s.generatedName, s.codingKeysName]
  | .enum _ => [s.generatedName]
  | .list _ | .set _ | .map .. | .primitive _ => []

/-- Two shapes with types of one name, or with one whose type has the name of the keys of the other.
-/
def Clashes (a b : Shape) : Prop :=
  a.hasType = true ∧ b.hasType = true ∧
    (a.generatedName = b.generatedName ∨
      (a.isRecord = true ∧ a.codingKeysName = b.generatedName) ∨
      (b.isRecord = true ∧ b.codingKeysName = a.generatedName))

theorem codingKeysName_ne (s : Shape) : s.generatedName ≠ s.codingKeysName := by
  intro h
  have hlists := congrArg String.toList h
  simp [codingKeysName, toString] at hlists

theorem codingKeysName_inj {a b : Shape} (h : a.codingKeysName = b.codingKeysName) :
    a.generatedName = b.generatedName := by
  have hlists := congrArg String.toList h
  simp only [codingKeysName, String.toList_append, toString] at hlists
  exact String.toList_injective (List.append_cancel_right hlists)

/-- The types of one shape have different names. -/
theorem nodup_definedTypes (s : Shape) : s.definedTypes.Nodup := by
  unfold definedTypes
  cases s.kind <;> simp [s.codingKeysName_ne]

theorem mem_definedTypes {s : Shape} {name : String} : name ∈ s.definedTypes ↔ s.hasType = true ∧
    (name = s.generatedName ∨ (s.isRecord = true ∧ name = s.codingKeysName)) := by
  unfold definedTypes hasType isRecord isStructure isUnion
  cases s.kind <;> simp

/-- Two shapes define a type of one name exactly if they clash. -/
theorem disjoint_definedTypes {a b : Shape} :
    a.definedTypes.Disjoint b.definedTypes ↔ ¬ a.Clashes b := by
  constructor
  · rintro hdisjoint ⟨ha, hb, hsame | ⟨hrecord, hsame⟩ | ⟨hrecord, hsame⟩⟩
    · exact hdisjoint (mem_definedTypes.2 ⟨ha, .inl rfl⟩) (mem_definedTypes.2 ⟨hb, .inl hsame⟩)
    · exact hdisjoint (mem_definedTypes.2 ⟨ha, .inr ⟨hrecord, rfl⟩⟩)
        (mem_definedTypes.2 ⟨hb, .inl hsame⟩)
    · exact hdisjoint (mem_definedTypes.2 ⟨ha, .inl hsame⟩)
        (mem_definedTypes.2 ⟨hb, .inr ⟨hrecord, rfl⟩⟩)
  · intro hclash name ha hb
    obtain ⟨ha, hnameA⟩ := mem_definedTypes.1 ha
    obtain ⟨hb, hnameB⟩ := mem_definedTypes.1 hb
    refine hclash ⟨ha, hb, ?_⟩
    rcases hnameA with rfl | ⟨hrecord, rfl⟩ <;> rcases hnameB with hsame | ⟨hrecord', hsame⟩
    · exact .inl hsame
    · exact .inr (.inr ⟨hrecord', hsame.symm⟩)
    · exact .inr (.inl ⟨hrecord, hsame⟩)
    · exact .inl (codingKeysName_inj hsame)

end Shape

/-! ## What the module defines -/

namespace Model

variable {m : Model}

/-- The names of the types that are generated for the shape with the identifier. -/
def typesOf (m : Model) (id : ShapeId) : List String :=
  ((m.shape? id).map Shape.definedTypes).getD []

theorem typesOf_eq {id : ShapeId} {s : Shape} (hs : m.shape? id = some s) :
    m.typesOf id = s.definedTypes := by
  rw [typesOf, hs]
  rfl

theorem definedType?_structureItem {s : Shape} {type : Item} (h : m.structureItem s = .ok type) :
    type.definedType? = some s.generatedName := by
  obtain ⟨fields, -, h⟩ := bind_eq_ok.1 h
  obtain rfl := Except.ok.inj h
  rfl

theorem definedType?_unionItem {s : Shape} {type : Item} (h : m.unionItem s = .ok type) :
    type.definedType? = some s.generatedName := by
  obtain ⟨variants, -, h⟩ := bind_eq_ok.1 h
  obtain rfl := Except.ok.inj h
  rfl

theorem definedType?_structureCodec {s : Shape} {codec : Item}
    (h : m.structureCodec s = .ok codec) : codec.definedType? = none := by
  obtain ⟨decoder, -, h⟩ := bind_eq_ok.1 h
  obtain ⟨encoder, -, h⟩ := bind_eq_ok.1 h
  obtain rfl := Except.ok.inj h
  rfl

theorem definedType?_unionCodec {s : Shape} {codec : Item}
    (h : m.unionCodec s = .ok codec) : codec.definedType? = none := by
  obtain ⟨decoder, -, h⟩ := bind_eq_ok.1 h
  obtain ⟨encoder, -, h⟩ := bind_eq_ok.1 h
  obtain rfl := Except.ok.inj h
  rfl

theorem filterMap_codingKeyItems (s : Shape) :
    s.codingKeyItems.filterMap Item.definedType? = [s.codingKeysName] := rfl

/-- Behind its type, a structure or union defines the type of its keys and nothing else. -/
theorem filterMap_recordItems {s : Shape} {type codec : Item}
    (htype : type.definedType? = some s.generatedName) (hcodec : codec.definedType? = none) :
    (type :: s.codingKeyItems ++ [codec]).filterMap Item.definedType? =
      [s.generatedName, s.codingKeysName] := by
  rw [List.cons_append, List.filterMap_cons_some htype, List.filterMap_append,
    filterMap_codingKeyItems, List.filterMap_cons_none hcodec]
  rfl

/-- The items of a shape define its types. -/
theorem filterMap_shapeItems {id : ShapeId} {items : List Item} (h : m.shapeItems id = .ok items) :
    items.filterMap Item.definedType? = m.typesOf id := by
  obtain ⟨s, hs, h⟩ := bind_eq_ok.1 h
  rw [typesOf_eq (resolveShape_eq_ok.1 hs), Shape.definedTypes]
  cases hkind : s.kind with
  | «structure» members =>
    rw [hkind] at h
    obtain ⟨type, htype, h⟩ := bind_eq_ok.1 h
    obtain ⟨codec, hcodec, h⟩ := bind_eq_ok.1 h
    obtain rfl := Except.ok.inj h
    exact filterMap_recordItems (definedType?_structureItem htype)
      (definedType?_structureCodec hcodec)
  | union members =>
    rw [hkind] at h
    obtain ⟨type, htype, h⟩ := bind_eq_ok.1 h
    obtain ⟨codec, hcodec, h⟩ := bind_eq_ok.1 h
    obtain rfl := Except.ok.inj h
    exact filterMap_recordItems (definedType?_unionItem htype) (definedType?_unionCodec hcodec)
  | enum values =>
    rw [hkind] at h
    obtain rfl := Except.ok.inj h
    rfl
  | list _ | set _ | map _ _ | primitive _ =>
    rw [hkind] at h
    obtain ⟨symbol, -, h⟩ := bind_eq_ok.1 h
    obtain rfl := Except.ok.inj h
    rfl

theorem definedTypes_typesModule {ids : List ShapeId} {t : Module}
    (h : m.typesModule ids = .ok t) : t.definedTypes = ids.flatMap m.typesOf := by
  obtain ⟨items, hitems, h⟩ := bind_eq_ok.1 h
  obtain rfl := Except.ok.inj h
  rw [Module.definedTypes, List.filterMap_flatten, ← List.flatMap_def]
  exact flatMap_of_mapM (fun _ _ => filterMap_shapeItems) hitems

/-! ## Two structures without members -/

def pairService : Service := ⟨⟨"store", "Store"⟩, "1", [⟨"store", "Swap"⟩], none, none⟩

/-- Two structures without members are the input and the output of the one operation. -/
def emptyPair (a b : ShapeId) (h : a < b) : Model where
  shapes := ⟨[⟨a, .structure [], []⟩, ⟨b, .structure [], []⟩],
    .cons (fun _ hx => List.mem_singleton.1 hx ▸ h) (.cons (fun _ hx => by cases hx) .nil)⟩
  operations := ⟨[⟨⟨"store", "Swap"⟩, some a, some b, none, none⟩], List.pairwise_singleton _ _⟩
  services := ⟨[pairService], List.pairwise_singleton _ _⟩

section

variable {a b : ShapeId} (h : a < b)

theorem shape?_emptyPair_left : (emptyPair a b h).shape? a = some ⟨a, .structure [], []⟩ := by
  simp [shape?, Catalog.get?, emptyPair, Identified.idOf]

theorem shape?_emptyPair_right : (emptyPair a b h).shape? b = some ⟨b, .structure [], []⟩ := by
  have hne : a ≠ b := fun heq => ShapeId.lt_irrefl b (heq ▸ h)
  simp [shape?, Catalog.get?, emptyPair, Identified.idOf, hne]

theorem resolveShape_emptyPair_left (from_ : Referrer) :
    (emptyPair a b h).resolveShape a from_ = .ok ⟨a, .structure [], []⟩ :=
  resolveShape_eq_ok.2 (shape?_emptyPair_left h)

theorem resolveShape_emptyPair_right (from_ : Referrer) :
    (emptyPair a b h).resolveShape b from_ = .ok ⟨b, .structure [], []⟩ :=
  resolveShape_eq_ok.2 (shape?_emptyPair_right h)

/-- The service reaches both structures. -/
theorem reachable_emptyPair : (emptyPair a b h).reachable pairService.id = .ok [a, b] := by
  have hne : b ≠ a := fun heq => ShapeId.lt_irrefl b (heq ▸ h)
  have hinsert : SortedSet.insert a [b] = [a, b] := by simp [SortedSet.insert, h]
  change (emptyPair a b h).closure [] [(b, .operation _), (a, .operation _)] = _
  rw [closure_new List.not_mem_nil (shape?_emptyPair_right h)]
  change (emptyPair a b h).closure [b] [(a, .operation _)] = _
  rw [closure_new (by simpa using hne.symm) (shape?_emptyPair_left h), hinsert]
  exact closure_nil

/-- The module of the types of both structures is made. -/
theorem exists_typesModule_emptyPair : ∃ t, (emptyPair a b h).typesModule [a, b] = .ok t := by
  have hshapes : ∀ id ∈ [a, b], ∃ items, (emptyPair a b h).shapeItems id = .ok items ∧ True := by
    intro id hid
    rcases List.mem_cons.1 hid with rfl | hid
    · exact ⟨_, by rw [shapeItems, ok_bind (resolveShape_emptyPair_left h _)]; rfl, trivial⟩
    · obtain rfl := List.mem_singleton.1 hid
      exact ⟨_, by rw [shapeItems, ok_bind (resolveShape_emptyPair_right h _)]; rfl, trivial⟩
  obtain ⟨items, hitems, -⟩ := mapM_exists_ok hshapes
  exact ⟨_, ok_bind hitems _⟩

theorem checkShape_emptyPair_left : (emptyPair a b h).checkShape a = .ok () := by
  rw [checkShape, ok_bind (resolveShape_emptyPair_left h _)]
  rfl

theorem checkShape_emptyPair_right : (emptyPair a b h).checkShape b = .ok () := by
  rw [checkShape, ok_bind (resolveShape_emptyPair_right h _)]
  rfl

/-- Both structures pass the checks. -/
theorem validate_emptyPair : (emptyPair a b h).validate pairService.id = .ok () := by
  have hoperations : pairService.operations.forM
      ((emptyPair a b h).checkOperation pairService.id) = .ok () := by
    have hinput : (emptyPair a b h).checkRole ⟨"store", "Swap"⟩ .input (some a) = .ok () := by
      rw [checkRole, ok_bind (resolveShape_emptyPair_left h _)]
      rfl
    have houtput : (emptyPair a b h).checkRole ⟨"store", "Swap"⟩ .output (some b) = .ok () := by
      rw [checkRole, ok_bind (resolveShape_emptyPair_right h _)]
      rfl
    change ((emptyPair a b h).checkRole _ _ _ >>= fun _ => (emptyPair a b h).checkRole _ _ _)
      >>= (fun _ => Except.ok ()) = _
    rw [ok_bind hinput, ok_bind houtput]
  have hshapes : ∀ id ∈ [a, b], (emptyPair a b h).checkShape id = .ok () := by
    simp [checkShape_emptyPair_left h, checkShape_emptyPair_right h]
  have hservice : (emptyPair a b h).resolveService pairService.id = .ok pairService :=
    resolveService_eq_ok.2 (by simp [service?, Catalog.get?, emptyPair, Identified.idOf])
  have hchecks : (emptyPair a b h).PassesLocalChecks pairService.id pairService [a, b] :=
    ⟨hservice, hoperations, reachable_emptyPair h, forM_of_forall_ok hshapes⟩
  refine hchecks.validate_of_leaves fun id hid t ht => ?_
  obtain rfl | rfl : id = a ∨ id = b := by simpa using hid
  · obtain rfl := Option.some.inj ((shape?_emptyPair_left h).symm.trans ht)
    exact ⟨rfl, List.forall_mem_nil _⟩
  · obtain rfl := Option.some.inj ((shape?_emptyPair_right h).symm.trans ht)
    exact ⟨rfl, List.forall_mem_nil _⟩

end

/-- The module of the types that a service reaches defines no type twice exactly if no two of the
shapes clash. -/
theorem nodup_definedTypes_iff {service : ShapeId} {ids : List ShapeId}
    (hids : m.reachable service = .ok ids) {t : Module} (ht : m.typesModule ids = .ok t) :
    t.definedTypes.Nodup ↔
      ∀ a b, m.IsAmong ids a → m.IsAmong ids b → a.id ≠ b.id → ¬ a.Clashes b := by
  obtain ⟨s, hs, -⟩ := bind_eq_ok.1 hids
  have hservice := resolveService_eq_ok.1 hs
  obtain ⟨hascending, -⟩ := (reachable_ok_iff hservice).2.1 ids hids
  have hnodup : ids.Nodup := hascending.imp fun {a b} hlt heq => by
    subst heq
    exact ShapeId.lt_irrefl a hlt
  have hclosed := (reachable_ok hservice hids).1
  have hsymm : Std.Symm (Function.onFun List.Disjoint m.typesOf) :=
    ⟨fun _ _ => List.disjoint_symm⟩
  rw [definedTypes_typesModule ht, List.nodup_flatMap]
  constructor
  · rintro ⟨-, hpairwise⟩ a b ha hb hne
    have hdisjoint : (m.typesOf a.id).Disjoint (m.typesOf b.id) :=
      hpairwise.forall ha.mem hb.mem hne
    rw [typesOf_eq ha.shape, typesOf_eq hb.shape] at hdisjoint
    exact Shape.disjoint_definedTypes.1 hdisjoint
  · intro hclash
    constructor
    · intro id hid
      obtain ⟨a, ha⟩ := hclosed.defined id hid
      rw [typesOf_eq ha]
      exact a.nodup_definedTypes
    · refine hnodup.pairwise_of_forall_ne fun x hx y hy hne => ?_
      obtain ⟨a, ha⟩ := hclosed.defined x hx
      obtain ⟨b, hb⟩ := hclosed.defined y hy
      change (m.typesOf x).Disjoint (m.typesOf y)
      rw [typesOf_eq ha, typesOf_eq hb]
      refine Shape.disjoint_definedTypes.2 (hclash a b (isAmong_of_shape? hx ha)
        (isAmong_of_shape? hy hb) ?_)
      rw [id_of_shape? ha, id_of_shape? hb]
      exact hne

/-- The type of the second structure has the name of the type of the keys of the first. -/
theorem nodup_definedTypes_iff_keys :
    let item : ShapeId := ⟨"store", "Item"⟩
    let keys : ShapeId := ⟨"store", "ItemCodingKeys"⟩
    let m := emptyPair item keys (by decide)
    m.reachable pairService.id = .ok [item, keys] ∧
      ∃ t, m.typesModule [item, keys] = .ok t ∧
        (t.definedTypes.Nodup ↔ ∀ a b, m.IsAmong [item, keys] a → m.IsAmong [item, keys] b →
          a.id ≠ b.id → ¬ a.Clashes b) ∧
        ¬ t.definedTypes.Nodup := by
  intro item keys m
  have hids : m.reachable pairService.id = .ok [item, keys] := reachable_emptyPair _
  obtain ⟨t, ht⟩ := exists_typesModule_emptyPair (a := item) (b := keys) (by decide)
  have hiff := nodup_definedTypes_iff hids ht
  refine ⟨hids, t, ht, hiff, fun hnodup => ?_⟩
  have hname : (⟨item, .structure [], []⟩ : Shape).codingKeysName =
      (⟨keys, .structure [], []⟩ : Shape).generatedName := by decide +kernel
  have hclash : Shape.Clashes ⟨item, .structure [], []⟩ ⟨keys, .structure [], []⟩ :=
    ⟨rfl, rfl, .inr (.inl ⟨rfl, hname⟩)⟩
  exact hiff.1 hnodup _ _ (isAmong_of_shape? (by simp) (shape?_emptyPair_left _))
    (isAmong_of_shape? (by simp) (shape?_emptyPair_right _)) (by decide) hclash

/-- Two structures of one name in two namespaces pass the checks, and the module of their types
defines the type of each name twice. -/
theorem not_nodup_definedTypes_homonyms :
    let first : ShapeId := ⟨"a", "Item"⟩
    let second : ShapeId := ⟨"b", "Item"⟩
    let m := emptyPair first second (by decide)
    m.validate pairService.id = .ok () ∧ m.reachable pairService.id = .ok [first, second] ∧
      ∃ t, m.typesModule [first, second] = .ok t ∧ ¬ t.definedTypes.Nodup := by
  intro first second m
  obtain ⟨t, ht⟩ := exists_typesModule_emptyPair (a := first) (b := second) (by decide)
  refine ⟨validate_emptyPair _, reachable_emptyPair _, t, ht, ?_⟩
  have htypes := definedTypes_typesModule ht
  rw [List.flatMap_cons, List.flatMap_cons, typesOf_eq (shape?_emptyPair_left _),
    typesOf_eq (shape?_emptyPair_right _)] at htypes
  rw [htypes]
  exact fun hnodup => (List.nodup_append'.1 hnodup).2.2 List.mem_cons_self
    (List.mem_append_left _ List.mem_cons_self)

end Model

end ClientGen
