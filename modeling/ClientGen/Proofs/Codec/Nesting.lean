import ClientGen.Proofs.Codec.Faults
import ClientGen.Proofs.Codec.Writing

/-!
# Collections inside one another

A codec expands a collection into a loop around the codec of what it holds, until it comes to a
shape that is no collection. So it goes well exactly if there is such a chain of collections, on
which none comes twice and the keys of maps can be converted. Whether one collection can be expanded
is decided by a single step; the chain follows by going from step to step.
-/

namespace ClientGen

namespace Shape

/-- The element of a list or set, or the value of a map. -/
def element? (s : Shape) : Option Member :=
  match s.kind with
  | .list e | .set e => some e
  | .map _ v => some v
  | _ => none

/-- What a shape that is no collection is decoded by. -/
def leafDecoder (s : Shape) (source : Expr) : Expr :=
  match s.kind with
  | .primitive p => p.decodeExpr source
  | .enum _ => .call s!"{Naming.typeName s.id.name}::from" [Wire.tryCall "decode_str" source]
  | _ => (Expr.call s!"{Naming.typeName s.id.name}::decode" [source]).propagate

/-- What a shape that is no collection is encoded by. -/
def leafEncoder (s : Shape) (source : Expr) : Expr :=
  match s.kind with
  | .primitive p => p.encodeExpr source
  | .enum _ => Wire.make "from" (source.receiver.method "as_str" [])
  | _ => source.receiver.method "encode" []

theorem mem_edges_of_element? {s : Shape} {e : Member} (h : s.element? = some e) : e ∈ s.edges := by
  unfold element? at h
  unfold edges
  cases hkind : s.kind <;> rw [hkind] at h <;> cases h <;> simp

theorem isCollection_eq (s : Shape) : s.isCollection = s.element?.isSome := by
  unfold isCollection element?
  cases s.kind <;> rfl

end Shape

/-! ## One element of a collection -/

/-- The statements that decode one element of a collection; `put` puts it into the buffer. -/
def decodedElement (p : CodecPath) (sparse : Bool) (put : Expr → Expr) (inner : List Stmt) :
    List Stmt :=
  skipNull (p.temp "value") (if sparse then [.run (put (.source "None"))] else [])
    :: inner ++ [.run (put (element sparse (.source (p.temp "element"))))]

/-- The statements that encode one item of a collection; `absent` stands for an absent item of a
sparse one, and `body` encodes one that is there. -/
def encodedItem (p : CodecPath) (sparse : Bool) (absent : Arm) (body : List Stmt) : List Stmt :=
  if sparse then
    [.matchOn (.source (p.temp "item")) [absent, .block (.some (p.temp "present")) body]]
  else body

theorem listDecodeLoop_eq (p : CodecPath) (sparse : Bool) (array : Expr) (inner : List Stmt) :
    listDecodeLoop p sparse array inner =
      [.bind (p.temp "items") (Wire.tryCall "expect_array" array),
        .bindMut (p.temp "buffer") (withCapacity "Vec" (.source (p.temp "items"))),
        .forIn (.name (p.temp "value")) (.source (p.temp "items"))
          (decodedElement p sparse (pushTo (p.temp "buffer")) inner),
        .result (.source (p.temp "buffer"))] := rfl

theorem mapDecodeEntry_eq (p : CodecPath) (sparse : Bool) (inner : List Stmt) :
    mapDecodeEntry p sparse inner = decodedElement p sparse
      (fun e => .method (.source (p.temp "buffer")) "insert" [.source (p.temp "mapkey"), e])
      inner := rfl

theorem listEncode_eq (p : CodecPath) (s : Shape) (e : Member) (source : Expr) (binding : String)
    (inner : List Stmt) :
    listEncode p s e source binding inner =
      [.bindBlock binding (.bindMut (p.temp "array") (withCapacity "Vec" source.receiver) ::
        .forIn (.name (p.temp "item")) (source.receiver.method "iter" [])
          (encodedItem p s.traits.isSparse
            (.value (.source "None") (pushTo (p.temp "array") (Wire.value "Null")))
            (inner ++ [.run (pushTo (p.temp "array") (.source (p.temp "element")))])) ::
        if s.traits.isWrapped then
          [.bindMut (p.temp "wrapper") Wire.emptyMap,
            insertInto (p.temp "wrapper") (Expr.literal e.wireName).toOwned
              (Wire.make "Array" (.source (p.temp "array"))),
            .result (Wire.make "Object" (.source (p.temp "wrapper")))]
        else [.result (Wire.make "Array" (.source (p.temp "array")))])] := rfl

theorem mapEncodeEntry_eq (p : CodecPath) (s : Shape) (object : String) (key : Expr)
    (inner : List Stmt) :
    mapEncodeEntry p s object key inner = encodedItem p s.traits.isSparse
      (.block (.source "None") [insertInto object key (Wire.value "Null")])
      (inner ++ [insertInto object key (.source (p.temp "element"))]) := rfl

namespace Model

/-- The collections from a shape inwards, up to the first shape that is none. -/
inductive Nesting (m : Model) : ShapeId → List Shape → Shape → Prop
  | leaf {id : ShapeId} {s : Shape} (shape : m.shape? id = some s) (element : s.element? = none) :
    Nesting m id [] s
  | collection {id : ShapeId} {s leaf : Shape} {e : Member} {inner : List Shape}
    (shape : m.shape? id = some s) (element : s.element? = some e)
    (rest : Nesting m e.target inner leaf) : Nesting m id (s :: inner) leaf

/-- The key of the shape, if it is a map, is defined and has the property. -/
def KeyIs (m : Model) (P : Shape → Prop) (s : Shape) : Prop :=
  ∀ k v, s.kind = .map k v → ∃ key, m.shape? k.target = some key ∧ P key

variable {m : Model} {p : CodecPath} {visiting : List ShapeId} {id : ShapeId} {s : Shape}
  {e : Member} {source : Expr} {binding : String}

theorem KeyIs.mono {P Q : Shape → Prop} (h : m.KeyIs P s) (himp : ∀ key, P key → Q key) :
    m.KeyIs Q s := by
  intro k v hkind
  obtain ⟨key, hkey, hP⟩ := h k v hkind
  exact ⟨key, hkey, himp key hP⟩

theorem KeyIs.of_not_map {P : Shape → Prop} (h : ∀ k v, s.kind ≠ .map k v) : m.KeyIs P s :=
  fun k v hkind => absurd hkind (h k v)

theorem keyIs_map {P : Shape → Prop} {k v : Member} (hkind : s.kind = .map k v) :
    m.KeyIs P s ↔ ∃ key, m.shape? k.target = some key ∧ P key := by
  constructor
  · exact fun h => h k v hkind
  · rintro h k' v' hkind'
    obtain ⟨rfl, rfl⟩ := ShapeKind.map.inj (hkind.symm.trans hkind')
    exact h

theorem Nesting.defined {collections : List Shape} {leaf : Shape}
    (h : m.Nesting id collections leaf) : ∃ s, m.shape? id = some s := by
  cases h with
  | leaf hs => exact ⟨_, hs⟩
  | collection hs => exact ⟨_, hs⟩

/-- There is only one way inwards. -/
theorem Nesting.unique {collections collections' : List Shape} {leaf leaf' : Shape}
    (h : m.Nesting id collections leaf) (h' : m.Nesting id collections' leaf') :
    collections = collections' ∧ leaf = leaf' := by
  induction h generalizing collections' with
  | leaf hs he =>
    cases h' with
    | leaf hs' => exact ⟨rfl, Option.some.inj (hs.symm.trans hs')⟩
    | collection hs' he' =>
      obtain rfl := Option.some.inj (hs.symm.trans hs')
      rw [he] at he'
      cases he'
  | collection hs he _ ih =>
    cases h' with
    | leaf hs' he' =>
      obtain rfl := Option.some.inj (hs.symm.trans hs')
      rw [he] at he'
      cases he'
    | collection hs' he' rest' =>
      obtain rfl := Option.some.inj (hs.symm.trans hs')
      obtain rfl := Option.some.inj (he.symm.trans he')
      obtain ⟨rfl, rfl⟩ := ih rest'
      exact ⟨rfl, rfl⟩

/-- The way inwards comes to a shape that is not defined or is no collection, to a collection that
it has met before, or to a new one, from which it goes on with one collection more. -/
theorem nesting_induction {motive : List ShapeId → ShapeId → Prop}
    (undefined : ∀ visiting id, m.shape? id = none → motive visiting id)
    (leaf : ∀ visiting id s, m.shape? id = some s → s.element? = none → motive visiting id)
    (repeated : ∀ visiting id s e, m.shape? id = some s → s.element? = some e → id ∈ visiting →
      motive visiting id)
    (collection : ∀ visiting id s e, m.shape? id = some s → s.element? = some e → id ∉ visiting →
      motive (visiting ++ [id]) e.target → motive visiting id)
    (visiting : List ShapeId) (id : ShapeId) : motive visiting id := by
  induction hn : m.unseen visiting using Nat.strongRecOn generalizing visiting id with
  | ind n ih =>
    cases hs : m.shape? id with
    | none => exact undefined visiting id hs
    | some s =>
      cases he : s.element? with
      | none => exact leaf visiting id s hs he
      | some e =>
        by_cases hvisiting : id ∈ visiting
        · exact repeated visiting id s e hs he hvisiting
        have hfewer : m.unseen (visiting ++ [id]) < n :=
          hn ▸ unseen_lt hs hvisiting (by simp) fun _ hx => by simp [hx]
        exact collection visiting id s e hs he hvisiting (ih _ hfewer _ _ rfl)

/-! ## Keys -/

theorem keyDecoder_ok_iff (p : CodecPath) {key : ShapeId} :
    (∃ conversion, m.keyDecoder p key = .ok conversion) ↔
      ∃ s, m.shape? key = some s ∧ s.isKey = true := by
  constructor
  · rintro ⟨conversion, h⟩
    obtain ⟨s, hs, h⟩ := bind_eq_ok.1 h
    refine ⟨s, resolveShape_eq_ok.1 hs, ?_⟩
    unfold Shape.isKey
    cases hkind : s.kind with
    | primitive prim => cases prim <;> rw [hkind] at h <;> first | rfl | cases h
    | enum values => rfl
    | _ => rw [hkind] at h; cases h
  · rintro ⟨s, hs, hkey⟩
    exact keyDecoder_ok hs hkey p

theorem keyEncoder_ok_iff (p : CodecPath) {key : ShapeId} (item : Expr) :
    (∃ text, m.keyEncoder p key item = .ok text) ↔ ∃ s, m.shape? key = some s := by
  constructor
  · rintro ⟨text, h⟩
    obtain ⟨s, hs, -⟩ := bind_eq_ok.1 h
    exact ⟨s, resolveShape_eq_ok.1 hs⟩
  · rintro ⟨s, hs⟩
    exact keyEncoder_ok hs p item

/-! ## One collection -/

/-- How a collection is decoded around the statements that decode what it holds. -/
def collectionDecoder (m : Model) (p : CodecPath) (s : Shape) (e : Member) (source : Expr)
    (binding : String) : Except GenerationError (List Stmt → List Stmt) :=
  match s.kind with
  | .map k _ => (m.keyDecoder p k.target).map (mapDecode p s k e source binding)
  | _ => .ok (listDecode p s e source binding)

/-- How a collection is encoded around the statements that encode what it holds. -/
def collectionEncoder (m : Model) (p : CodecPath) (s : Shape) (e : Member) (source : Expr)
    (binding : String) : Except GenerationError (List Stmt → List Stmt) :=
  match s.kind with
  | .map k _ =>
    (m.keyEncoder p k.target (.source (p.temp "key"))).map (mapEncode p s k e source binding)
  | _ => .ok (listEncode p s e source binding)

/-- Lists and sets are decoded the same way, maps with a conversion of their keys besides. -/
theorem collectionDecoder_cases {around : List Stmt → List Stmt} (he : s.element? = some e)
    (h : m.collectionDecoder p s e source binding = .ok around) :
    ((s.kind = .list e ∨ s.kind = .set e) ∧ around = listDecode p s e source binding) ∨
      ∃ k conversion, s.kind = .map k e ∧ m.keyDecoder p k.target = .ok conversion ∧
        around = mapDecode p s k e source binding conversion := by
  unfold collectionDecoder at h
  unfold Shape.element? at he
  cases hkind : s.kind with
  | list x | set x =>
    rw [hkind] at h he
    cases he
    exact .inl ⟨by simp, (Except.ok.inj h).symm⟩
  | map k v =>
    rw [hkind] at h he
    cases he
    obtain ⟨conversion, hconversion, rfl⟩ := map_eq_ok.1 h
    exact .inr ⟨k, conversion, rfl, hconversion, rfl⟩
  | _ =>
    rw [hkind] at he
    cases he

/-- Lists and sets are encoded the same way, maps with a text for their keys besides. -/
theorem collectionEncoder_cases {around : List Stmt → List Stmt} (he : s.element? = some e)
    (h : m.collectionEncoder p s e source binding = .ok around) :
    ((s.kind = .list e ∨ s.kind = .set e) ∧ around = listEncode p s e source binding) ∨
      ∃ k keyText, s.kind = .map k e ∧
        m.keyEncoder p k.target (.source (p.temp "key")) = .ok keyText ∧
        around = mapEncode p s k e source binding keyText := by
  unfold collectionEncoder at h
  unfold Shape.element? at he
  cases hkind : s.kind with
  | list x | set x =>
    rw [hkind] at h he
    cases he
    exact .inl ⟨by simp, (Except.ok.inj h).symm⟩
  | map k v =>
    rw [hkind] at h he
    cases he
    obtain ⟨keyText, hkeyText, rfl⟩ := map_eq_ok.1 h
    exact .inr ⟨k, keyText, rfl, hkeyText, rfl⟩
  | _ =>
    rw [hkind] at he
    cases he

theorem collectionDecoder_ok_iff (p : CodecPath) (e : Member) (source : Expr) (binding : String) :
    (∃ around, m.collectionDecoder p s e source binding = .ok around) ↔
      m.KeyIs (·.isKey = true) s := by
  unfold collectionDecoder
  cases hkind : s.kind with
  | map k v =>
    dsimp only
    rw [keyIs_map hkind, ← keyDecoder_ok_iff p]
    exact exists_map_eq_ok
  | _ => exact ⟨fun _ => .of_not_map (by simp [hkind]), fun _ => ⟨_, rfl⟩⟩

theorem collectionEncoder_ok_iff (p : CodecPath) (e : Member) (source : Expr) (binding : String) :
    (∃ around, m.collectionEncoder p s e source binding = .ok around) ↔
      m.KeyIs (fun _ => True) s := by
  unfold collectionEncoder
  cases hkind : s.kind with
  | map k v =>
    dsimp only
    simp only [keyIs_map hkind, and_true, ← keyEncoder_ok_iff p (.source (p.temp "key"))]
    exact exists_map_eq_ok
  | _ => exact ⟨fun _ => .of_not_map (by simp [hkind]), fun _ => ⟨_, rfl⟩⟩

/-! ## One step of a codec -/

theorem decode_undefined (hs : m.shape? id = none) :
    m.decode p visiting id source binding = .error (.unresolvedShape id p.referrer) := by
  rw [decode, hs]

theorem encode_undefined (hs : m.shape? id = none) :
    m.encode p visiting id source binding = .error (.unresolvedShape id p.referrer) := by
  rw [encode, hs]

theorem decode_leaf (hs : m.shape? id = some s) (he : s.element? = none) :
    m.decode p visiting id source binding = .ok [.bind binding (s.leafDecoder source)] := by
  rw [decode, hs]
  dsimp only
  obtain rfl := id_of_shape? hs
  unfold Shape.element? at he
  unfold Shape.leafDecoder
  cases hkind : s.kind <;> rw [hkind] at he <;> first | rfl | cases he

theorem encode_leaf (hs : m.shape? id = some s) (he : s.element? = none) :
    m.encode p visiting id source binding = .ok [.bind binding (s.leafEncoder source)] := by
  rw [encode, hs]
  dsimp only
  unfold Shape.element? at he
  unfold Shape.leafEncoder
  cases hkind : s.kind <;> rw [hkind] at he <;> first | rfl | cases he

theorem decode_cycle (hs : m.shape? id = some s) (he : s.element? = some e)
    (hvisiting : id ∈ visiting) : m.decode p visiting id source binding =
      .error (.invalidGraph .collectionCycle (visiting ++ [id])) := by
  rw [decode, hs]
  dsimp only
  unfold Shape.element? at he
  cases hkind : s.kind <;> rw [hkind] at he <;> cases he <;> exact dif_pos hvisiting

theorem encode_cycle (hs : m.shape? id = some s) (he : s.element? = some e)
    (hvisiting : id ∈ visiting) : m.encode p visiting id source binding =
      .error (.invalidGraph .collectionCycle (visiting ++ [id])) := by
  rw [encode, hs]
  dsimp only
  unfold Shape.element? at he
  cases hkind : s.kind <;> rw [hkind] at he <;> cases he <;> exact dif_pos hvisiting

/-- A new collection is decoded around what it holds. -/
theorem decode_collection (hs : m.shape? id = some s) (he : s.element? = some e)
    (hnew : id ∉ visiting) : m.decode p visiting id source binding =
      m.collectionDecoder p s e source binding >>= fun around =>
        (m.decode p.deeper (visiting ++ [id]) e.target (.source (p.temp "value"))
          (p.temp "element")).map around := by
  rw [decode, hs]
  dsimp only
  unfold Shape.element? at he
  unfold collectionDecoder
  cases hkind : s.kind with
  | list e' | set e' =>
    rw [hkind] at he
    cases he
    simp only [map_eq_bind]
    exact dif_neg hnew
  | map k v =>
    rw [hkind] at he
    cases he
    dsimp only
    rw [dif_neg hnew]
    cases m.keyDecoder p k.target <;> simp only [map_eq_bind, bind_ok, bind_error]
  | _ =>
    rw [hkind] at he
    cases he

/-- A new collection is encoded around what it holds. -/
theorem encode_collection (hs : m.shape? id = some s) (he : s.element? = some e)
    (hnew : id ∉ visiting) : m.encode p visiting id source binding =
      m.collectionEncoder p s e source binding >>= fun around =>
        (m.encode p.deeper (visiting ++ [id]) e.target (encodeSource p s)
          (p.temp "element")).map around := by
  rw [encode, hs]
  dsimp only
  unfold Shape.element? at he
  unfold collectionEncoder
  cases hkind : s.kind with
  | list e' | set e' =>
    rw [hkind] at he
    cases he
    simp only [map_eq_bind]
    exact dif_neg hnew
  | map k v =>
    rw [hkind] at he
    cases he
    dsimp only
    rw [dif_neg hnew]
    cases m.keyEncoder p k.target (.source (p.temp "key")) <;>
      simp only [map_eq_bind, bind_ok, bind_error]
  | _ =>
    rw [hkind] at he
    cases he

/-- A collection that is decoded is new, and what it holds is decoded. -/
theorem decode_collection_ok (hs : m.shape? id = some s) (he : s.element? = some e)
    {stmts : List Stmt} (h : m.decode p visiting id source binding = .ok stmts) :
    ∃ around inner, m.collectionDecoder p s e source binding = .ok around ∧
      m.decode p.deeper (visiting ++ [id]) e.target (.source (p.temp "value")) (p.temp "element") =
        .ok inner ∧ stmts = around inner := by
  by_cases hvisiting : id ∈ visiting
  · rw [decode_cycle hs he hvisiting] at h
    cases h
  · rw [decode_collection hs he hvisiting] at h
    obtain ⟨around, haround, h⟩ := bind_eq_ok.1 h
    obtain ⟨inner, hinner, rfl⟩ := map_eq_ok.1 h
    exact ⟨around, inner, haround, hinner, rfl⟩

/-- A collection that is encoded is new, and what it holds is encoded. -/
theorem encode_collection_ok (hs : m.shape? id = some s) (he : s.element? = some e)
    {stmts : List Stmt} (h : m.encode p visiting id source binding = .ok stmts) :
    ∃ around inner, m.collectionEncoder p s e source binding = .ok around ∧
      m.encode p.deeper (visiting ++ [id]) e.target (encodeSource p s) (p.temp "element") =
        .ok inner ∧ stmts = around inner := by
  by_cases hvisiting : id ∈ visiting
  · rw [encode_cycle hs he hvisiting] at h
    cases h
  · rw [encode_collection hs he hvisiting] at h
    obtain ⟨around, haround, h⟩ := bind_eq_ok.1 h
    obtain ⟨inner, hinner, rfl⟩ := map_eq_ok.1 h
    exact ⟨around, inner, haround, hinner, rfl⟩

/-! ## Whole codecs -/

/-- The collections from a shape inwards can all be expanded: none is expanded already or comes
twice, and the keys of maps have the property. -/
structure Expands (m : Model) (P : Shape → Prop) (visiting : List ShapeId) (id : ShapeId)
    (collections : List Shape) (leaf : Shape) : Prop where
  nesting : m.Nesting id collections leaf
  fresh : ∀ c ∈ collections, c.id ∉ visiting
  nodup : (collections.map Shape.id).Nodup
  keys : ∀ c ∈ collections, m.KeyIs P c

section

variable {P : Shape → Prop} {collections : List Shape} {leaf : Shape}

theorem expands_leaf (hs : m.shape? id = some s) (he : s.element? = none) :
    m.Expands P visiting id [] s :=
  ⟨.leaf hs he, by simp, by simp, by simp⟩

/-- A collection can be expanded with all inside it if it can be itself, and what it holds can while
it is. -/
theorem Expands.collection (hs : m.shape? id = some s) (he : s.element? = some e)
    (hnew : id ∉ visiting) (hkey : m.KeyIs P s)
    (h : m.Expands P (visiting ++ [id]) e.target collections leaf) :
    m.Expands P visiting id (s :: collections) leaf := by
  have hid : s.id = id := id_of_shape? hs
  have hfresh : ∀ c ∈ collections, c.id ∉ visiting ∧ c.id ≠ id := fun c hc => by
    simpa [not_or] using h.fresh c hc
  refine ⟨.collection hs he h.nesting, ?_, ?_, ?_⟩
  · rw [List.forall_mem_cons, hid]
    exact ⟨hnew, fun c hc => (hfresh c hc).1⟩
  · rw [List.map_cons, List.nodup_cons, hid]
    refine ⟨fun hmem => ?_, h.nodup⟩
    obtain ⟨c, hc, hcid⟩ := List.mem_map.1 hmem
    exact (hfresh c hc).2 hcid
  · exact List.forall_mem_cons.2 ⟨hkey, h.keys⟩

/-- The converse. -/
theorem Expands.of_collection (hs : m.shape? id = some s) (he : s.element? = some e)
    (h : m.Expands P visiting id collections leaf) : id ∉ visiting ∧ m.KeyIs P s ∧
      ∃ inner, collections = s :: inner ∧ m.Expands P (visiting ++ [id]) e.target inner leaf := by
  obtain ⟨hnesting, hfresh, hnodup, hkeys⟩ := h
  cases hnesting with
  | leaf hs' he' =>
    obtain rfl := Option.some.inj (hs.symm.trans hs')
    rw [he] at he'
    cases he'
  | collection hs' he' rest =>
    obtain rfl := Option.some.inj (hs.symm.trans hs')
    obtain rfl := Option.some.inj (he.symm.trans he')
    obtain rfl := id_of_shape? hs
    rw [List.map_cons, List.nodup_cons] at hnodup
    rw [List.forall_mem_cons] at hfresh hkeys
    refine ⟨hfresh.1, hkeys.1, _, rfl, rest, fun c hc hmem => ?_, hnodup.2, hkeys.2⟩
    rcases List.mem_append.1 hmem with hmem | hmem
    · exact hfresh.2 c hc hmem
    · exact hnodup.1 (List.mem_map.2 ⟨c, hc, List.mem_singleton.1 hmem⟩)

/-- What goes well at a leaf, and at a collection exactly if it can be expanded and what it holds
goes well, goes well exactly if all collections from a shape inwards can be expanded. -/
theorem ok_iff_expands {α : Type} (run : α → List ShapeId → ShapeId → Prop) (next : α → Shape → α)
    (undefined : ∀ a visiting id, m.shape? id = none → ¬ run a visiting id)
    (leaf : ∀ a visiting id s, m.shape? id = some s → s.element? = none → run a visiting id)
    (collection : ∀ a visiting id s e, m.shape? id = some s → s.element? = some e →
      (run a visiting id ↔
        id ∉ visiting ∧ m.KeyIs P s ∧ run (next a s) (visiting ++ [id]) e.target))
    (a : α) (visiting : List ShapeId) (id : ShapeId) :
    run a visiting id ↔ ∃ collections leaf, m.Expands P visiting id collections leaf := by
  induction visiting, id using nesting_induction (m := m) generalizing a with
  | undefined visiting id hs =>
    refine iff_of_false (undefined a visiting id hs) ?_
    rintro ⟨collections, leaf, hexpands⟩
    obtain ⟨s, hs'⟩ := hexpands.nesting.defined
    rw [hs] at hs'
    cases hs'
  | leaf visiting id s hs he =>
    exact iff_of_true (leaf a visiting id s hs he) ⟨[], s, expands_leaf hs he⟩
  | repeated visiting id s e hs he hmem =>
    rw [collection a visiting id s e hs he]
    refine iff_of_false (fun h => h.1 hmem) ?_
    rintro ⟨collections, leaf, hexpands⟩
    exact (hexpands.of_collection hs he).1 hmem
  | collection visiting id s e hs he hnew ih =>
    rw [collection a visiting id s e hs he]
    constructor
    · rintro ⟨-, hkey, hrun⟩
      obtain ⟨collections, leaf, hexpands⟩ := (ih _).1 hrun
      exact ⟨_, leaf, .collection hs he hnew hkey hexpands⟩
    · rintro ⟨collections, leaf, hexpands⟩
      obtain ⟨-, hkey, inner, -, hinner⟩ := hexpands.of_collection hs he
      exact ⟨hnew, hkey, (ih _).2 ⟨inner, leaf, hinner⟩⟩

end

/-- A value can be decoded exactly if the collections from its shape inwards can be expanded and the
keys of the maps among them have a written form. -/
theorem decode_ok_iff : (∃ stmts, m.decode p visiting id source binding = .ok stmts) ↔
    ∃ collections leaf, m.Expands (·.isKey = true) visiting id collections leaf := by
  refine ok_iff_expands (α := CodecPath × Expr × String)
    (fun a visiting id => ∃ stmts, m.decode a.1 visiting id a.2.1 a.2.2 = .ok stmts)
    (fun a _ => (a.1.deeper, .source (a.1.temp "value"), a.1.temp "element"))
    (fun a visiting id hs => ?_) (fun a visiting id s hs he => ?_)
    (fun a visiting id s e hs he => ?_) (p, source, binding) visiting id
  · rw [decode_undefined hs]
    rintro ⟨stmts, ⟨⟩⟩
  · exact ⟨_, decode_leaf hs he⟩
  · rw [← collectionDecoder_ok_iff a.1 e a.2.1 a.2.2]
    by_cases hvisiting : id ∈ visiting
    · rw [decode_cycle hs he hvisiting]
      simp [hvisiting]
    · simp only [decode_collection hs he hvisiting, hvisiting, not_false_eq_true, true_and]
      cases m.collectionDecoder a.1 s e a.2.1 a.2.2 with
      | error err => simp
      | ok around => simp [exists_map_eq_ok]

/-- A value can be encoded exactly if the collections from its shape inwards can be expanded and the
keys of the maps among them are defined. -/
theorem encode_ok_iff : (∃ stmts, m.encode p visiting id source binding = .ok stmts) ↔
    ∃ collections leaf, m.Expands (fun _ => True) visiting id collections leaf := by
  refine ok_iff_expands (α := CodecPath × Expr × String)
    (fun a visiting id => ∃ stmts, m.encode a.1 visiting id a.2.1 a.2.2 = .ok stmts)
    (fun a s => (a.1.deeper, encodeSource a.1 s, a.1.temp "element"))
    (fun a visiting id hs => ?_) (fun a visiting id s hs he => ?_)
    (fun a visiting id s e hs he => ?_) (p, source, binding) visiting id
  · rw [encode_undefined hs]
    rintro ⟨stmts, ⟨⟩⟩
  · exact ⟨_, encode_leaf hs he⟩
  · rw [← collectionEncoder_ok_iff a.1 e a.2.1 a.2.2]
    by_cases hvisiting : id ∈ visiting
    · rw [encode_cycle hs he hvisiting]
      simp [hvisiting]
    · simp only [encode_collection hs he hvisiting, hvisiting, not_false_eq_true, true_and]
      cases m.collectionEncoder a.1 s e a.2.1 a.2.2 with
      | error err => simp
      | ok around => simp [exists_map_eq_ok]

/-! ## Codecs in writing -/

end Model

/-- A codec in writing goes well if its statements do. -/
theorem Writes.ok_iff {inner : InnerCodec} {t : CodecTrail}
    {r : Except GenerationError (List Stmt)} (h : Writes inner t r) (w : Writer) :
    (∃ c, inner w = .ok c) ↔ ∃ stmts, r = .ok stmts := by
  rw [h w, exists_map_eq_ok]

/-- A codec in writing comes back to its trail, closes what it opens, and keeps what is written. -/
theorem Writes.keeps {inner : InnerCodec} {t : CodecTrail}
    {r : Except GenerationError (List Stmt)} (h : Writes inner t r) {w : Writer} {c : CodecWriter}
    (hc : inner w = .ok c) :
    c.trail = t ∧ c.writer.scopes = w.scopes ∧ w.lines <+: c.writer.lines := by
  obtain ⟨stmts, -, rfl⟩ := map_eq_ok.1 ((h w).symm.trans hc)
  refine ⟨rfl, Writer.scopes_emit w _, ?_⟩
  change w.lines <+: (w.emit (codeOfStmts stmts)).lines
  rw [Writer.emit_eq, Writer.lines_place]
  exact List.prefix_append _ _

namespace Model

/-- A decoder goes well exactly if the collections from the shape inwards come to an end at a
defined shape, none of them twice, and the keys of the maps among them are strings, integers or
enums; for an encoder the keys need only be defined. Either of them comes back to the trail from
which it started, with the same scopes open, and adds its lines to those written before. -/
theorem writeDecode_ok_iff_and_writeEncode_ok_iff (m : Model) (w : Writer) (member : String)
    (id : ShapeId) (source : Expr) (binding : String) :
    let start : CodecWriter := ⟨w, .ofMember member⟩
    ((∃ c, m.writeDecode start id source binding = .ok c) ↔
      ∃ collections leaf, m.Nesting id collections leaf ∧ (collections.map Shape.id).Nodup ∧
        ∀ s ∈ collections, m.KeyIs (·.isKey = true) s) ∧
    ((∃ c, m.writeEncode start id source binding = .ok c) ↔
      ∃ collections leaf, m.Nesting id collections leaf ∧ (collections.map Shape.id).Nodup ∧
        ∀ s ∈ collections, m.KeyIs (fun _ => True) s) ∧
    ∀ c, m.writeDecode start id source binding = .ok c ∨
        m.writeEncode start id source binding = .ok c →
      c.trail = start.trail ∧ c.writer.scopes = w.scopes ∧ w.lines <+: c.writer.lines := by
  intro start
  have hdecode := m.writes_writeDecode start.trail id source binding
  have hencode := m.writes_writeEncode start.trail id source binding
  have hexpands : ∀ P, (∃ collections leaf, m.Expands P [] id collections leaf) ↔
      ∃ collections leaf, m.Nesting id collections leaf ∧ (collections.map Shape.id).Nodup ∧
        ∀ s ∈ collections, m.KeyIs P s := fun P => by
    constructor
    · rintro ⟨collections, leaf, h⟩
      exact ⟨collections, leaf, h.nesting, h.nodup, h.keys⟩
    · rintro ⟨collections, leaf, hnesting, hnodup, hkeys⟩
      exact ⟨collections, leaf, hnesting, fun _ _ => List.not_mem_nil, hnodup, hkeys⟩
  refine ⟨?_, ?_, ?_⟩
  · exact (hdecode.ok_iff w).trans (decode_ok_iff.trans (hexpands _))
  · exact (hencode.ok_iff w).trans (encode_ok_iff.trans (hexpands _))
  · rintro c (hc | hc)
    · exact hdecode.keeps hc
    · exact hencode.keeps hc

end Model

end ClientGen
