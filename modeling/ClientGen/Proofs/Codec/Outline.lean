import ClientGen.Codec.Record
import ClientGen.Proofs.Codec.Nesting
import ClientGen.Proofs.Symbol.Outline

/-!
# Codecs in an outline

A codec looks up the shapes that it comes to from member to target, and the symbols of the members
of its own shape. All of these lie in one part of the model, and none of what it takes from them is
documentation; so a codec is the same in an outline.
-/

namespace ClientGen

/-! ## Shapes without documentation -/

namespace Shape

variable (s : Shape) (e : Member)

@[simp] theorem element?_undocumented :
    s.undocumented.element? = s.element?.map .undocumented := by
  unfold element?
  rw [kind_undocumented]
  cases s.kind <;> rfl

@[simp] theorem leafDecoder_undocumented (source : Expr) :
    s.undocumented.leafDecoder source = s.leafDecoder source := by
  unfold leafDecoder
  rw [kind_undocumented]
  cases s.kind <;> rfl

@[simp] theorem leafEncoder_undocumented (source : Expr) :
    s.undocumented.leafEncoder source = s.leafEncoder source := by
  unfold leafEncoder
  rw [kind_undocumented]
  cases s.kind <;> rfl

@[simp] theorem codingKeysName_undocumented : s.undocumented.codingKeysName = s.codingKeysName :=
  rfl

@[simp] theorem codingKeys_undocumented : s.undocumented.codingKeys = s.codingKeys := by
  simp [codingKeys, CodingKey.ofMember]

@[simp] theorem keyExpr_undocumented :
    s.undocumented.keyExpr e.undocumented = s.keyExpr e := rfl

@[simp] theorem codingKeyPath_undocumented :
    s.undocumented.codingKeyPath e.undocumented = s.codingKeyPath e := rfl

@[simp] theorem codingKeyItems_undocumented :
    s.undocumented.codingKeyItems = s.codingKeyItems := by
  simp [codingKeyItems, asStrArms, fromWireArms]

end Shape

section

variable (p : CodecPath) (s : Shape) (e k v : Member) (source : Expr) (binding : String)

@[simp] theorem encodeSource_undocumented : encodeSource p s.undocumented = encodeSource p s := by
  simp [encodeSource]

@[simp] theorem listDecode_undocumented :
    listDecode p s.undocumented e.undocumented source binding =
      listDecode p s e source binding := by
  funext inner
  simp [listDecode]

@[simp] theorem listEncode_undocumented :
    listEncode p s.undocumented e.undocumented source binding =
      listEncode p s e source binding := by
  funext inner
  simp [listEncode]

@[simp] theorem mapDecode_undocumented (conversion : Expr → Expr) :
    mapDecode p s.undocumented k.undocumented v.undocumented source binding conversion =
      mapDecode p s k v source binding conversion := by
  funext inner
  simp [mapDecode]

@[simp] theorem mapEncodeEntry_undocumented (object : String) (key : Expr) (inner : List Stmt) :
    mapEncodeEntry p s.undocumented object key inner = mapEncodeEntry p s object key inner := by
  simp [mapEncodeEntry]

@[simp] theorem mapEncode_undocumented (keyText : Expr) :
    mapEncode p s.undocumented k.undocumented v.undocumented source binding keyText =
      mapEncode p s k v source binding keyText := by
  funext inner
  simp [mapEncode]

end

namespace Model.IsOutline

variable {k m : Model} {P Q : ShapeId → Prop}

/-! ## Values -/

theorem keyDecoder (h : k.IsOutline m P Q) (p : CodecPath) {key : ShapeId} (hkey : P key) :
    k.keyDecoder p key = m.keyDecoder p key := by
  refine h.resolve_congr hkey fun s _ => ?_
  rw [Shape.kind_undocumented]
  cases s.kind <;> rfl

theorem keyEncoder (h : k.IsOutline m P Q) (p : CodecPath) {key : ShapeId} (hkey : P key)
    (item : Expr) : k.keyEncoder p key item = m.keyEncoder p key item := by
  refine h.resolve_congr hkey fun s _ => ?_
  rw [Shape.kind_undocumented]
  cases s.kind <;> rfl

theorem collectionDecoder (h : k.IsOutline m P Q) {s : Shape} (hs : m.IsWithin P s) (p : CodecPath)
    (e : Member) (source : Expr) (binding : String) :
    k.collectionDecoder p s.undocumented e.undocumented source binding =
      m.collectionDecoder p s e source binding := by
  unfold Model.collectionDecoder
  rw [Shape.kind_undocumented]
  cases hkind : s.kind with
  | map key value =>
    have hkey : P key.target := h.target_of_mem hs (by simp [Shape.edges, hkind])
    simp only [ShapeKind.undocumented, Member.target_undocumented, h.keyDecoder p hkey]
    exact congrArg (fun f => (m.keyDecoder p key.target).map f)
      (funext fun conversion => mapDecode_undocumented p s key e source binding conversion)
  | _ => exact congrArg _ (listDecode_undocumented p s e source binding)

theorem collectionEncoder (h : k.IsOutline m P Q) {s : Shape} (hs : m.IsWithin P s) (p : CodecPath)
    (e : Member) (source : Expr) (binding : String) :
    k.collectionEncoder p s.undocumented e.undocumented source binding =
      m.collectionEncoder p s e source binding := by
  unfold Model.collectionEncoder
  rw [Shape.kind_undocumented]
  cases hkind : s.kind with
  | map key value =>
    have hkey : P key.target := h.target_of_mem hs (by simp [Shape.edges, hkind])
    simp only [ShapeKind.undocumented, Member.target_undocumented, h.keyEncoder p hkey]
    exact congrArg (fun f => (m.keyEncoder p key.target (.source (p.temp "key"))).map f)
      (funext fun keyText => mapEncode_undocumented p s key e source binding keyText)
  | _ => exact congrArg _ (listEncode_undocumented p s e source binding)

theorem decode (h : k.IsOutline m P Q) (p : CodecPath) (visiting : List ShapeId) {id : ShapeId}
    (hid : P id) (source : Expr) (binding : String) :
    k.decode p visiting id source binding = m.decode p visiting id source binding := by
  induction visiting, id using nesting_induction (m := m) generalizing p source binding with
  | undefined visiting id hs =>
    rw [decode_undefined hs, decode_undefined (h.shape?_eq_none hid hs)]
  | leaf visiting id s hs he =>
    rw [decode_leaf hs he, decode_leaf (h.shape?_eq_some hid hs) (by simp [he]),
      Shape.leafDecoder_undocumented]
  | repeated visiting id s e hs he hmem =>
    have he' : s.undocumented.element? = some e.undocumented := by simp [he]
    rw [decode_cycle hs he hmem, decode_cycle (h.shape?_eq_some hid hs) he' hmem]
  | collection visiting id s e hs he hnew ih =>
    have he' : s.undocumented.element? = some e.undocumented := by simp [he]
    have htarget : P e.target := h.target id s hid hs e (Shape.mem_edges_of_element? he)
    rw [decode_collection hs he hnew, decode_collection (h.shape?_eq_some hid hs) he' hnew,
      h.collectionDecoder (isWithin_of_shape? hid hs), Member.target_undocumented, ih _ htarget]

theorem encode (h : k.IsOutline m P Q) (p : CodecPath) (visiting : List ShapeId) {id : ShapeId}
    (hid : P id) (source : Expr) (binding : String) :
    k.encode p visiting id source binding = m.encode p visiting id source binding := by
  induction visiting, id using nesting_induction (m := m) generalizing p source binding with
  | undefined visiting id hs =>
    rw [encode_undefined hs, encode_undefined (h.shape?_eq_none hid hs)]
  | leaf visiting id s hs he =>
    rw [encode_leaf hs he, encode_leaf (h.shape?_eq_some hid hs) (by simp [he]),
      Shape.leafEncoder_undocumented]
  | repeated visiting id s e hs he hmem =>
    have he' : s.undocumented.element? = some e.undocumented := by simp [he]
    rw [encode_cycle hs he hmem, encode_cycle (h.shape?_eq_some hid hs) he' hmem]
  | collection visiting id s e hs he hnew ih =>
    have he' : s.undocumented.element? = some e.undocumented := by simp [he]
    have htarget : P e.target := h.target id s hid hs e (Shape.mem_edges_of_element? he)
    rw [encode_collection hs he hnew, encode_collection (h.shape?_eq_some hid hs) he' hnew,
      h.collectionEncoder (isWithin_of_shape? hid hs), Member.target_undocumented,
      encodeSource_undocumented, ih _ htarget]

/-! ## Members -/

section

variable {s : Shape} {e : Member}

theorem decodeMember (h : k.IsOutline m P Q) (hs : m.IsWithin P s) (he : e ∈ s.members) :
    k.decodeMember s.undocumented e.undocumented = m.decodeMember s e := by
  have htarget : P e.target := h.target_of_mem_members hs he
  unfold Model.decodeMember
  simp only [Shape.id_undocumented, Member.name_undocumented, Member.target_undocumented,
    h.memberSymbol modelNamespace hs.mem htarget, h.decode _ _ htarget, Shape.keyExpr_undocumented,
    absentArm, Member.required_undocumented, Member.traits_undocumented,
    Traits.default?_undocumented, Member.wireName_undocumented]

theorem encodeMember (h : k.IsOutline m P Q) (hs : m.IsWithin P s) (he : e ∈ s.members) :
    k.encodeMember s.undocumented e.undocumented = m.encodeMember s e := by
  have htarget : P e.target := h.target_of_mem_members hs he
  unfold Model.encodeMember
  simp only [Shape.id_undocumented, Member.name_undocumented, Member.target_undocumented,
    h.memberSymbol modelNamespace hs.mem htarget, h.encode _ _ htarget, insertMember,
    Shape.keyExpr_undocumented]

theorem decodeVariant (h : k.IsOutline m P Q) (hs : m.IsWithin P s) (he : e ∈ s.members) :
    k.decodeVariant s.undocumented e.undocumented = m.decodeVariant s e := by
  have htarget : P e.target := h.target_of_mem_members hs he
  unfold Model.decodeVariant
  simp only [Shape.id_undocumented, Member.name_undocumented, Member.target_undocumented,
    h.memberSymbol modelNamespace hs.mem htarget, h.decode _ _ htarget,
    Shape.codingKeyPath_undocumented]

theorem encodeVariant (h : k.IsOutline m P Q) (hs : m.IsWithin P s) (he : e ∈ s.members) :
    k.encodeVariant s.undocumented e.undocumented = m.encodeVariant s e := by
  have htarget : P e.target := h.target_of_mem_members hs he
  unfold Model.encodeVariant
  simp only [Member.name_undocumented, Member.target_undocumented, h.encode _ _ htarget,
    insertMember, Shape.keyExpr_undocumented]

/-! ## Structures and unions -/

theorem structureCodec (h : k.IsOutline m P Q) (hs : m.IsWithin P s) :
    k.structureCodec s.undocumented = m.structureCodec s := by
  have hdecoded : (s.members.map .undocumented).mapM (k.decodeMember s.undocumented) =
      s.members.mapM (m.decodeMember s) :=
    mapM_map_congr fun e he => h.decodeMember hs he
  have hencoded : (s.members.map .undocumented).mapM (k.encodeMember s.undocumented) =
      s.members.mapM (m.encodeMember s) :=
    mapM_map_congr fun e he => h.encodeMember hs he
  simp only [Model.structureCodec, structureDecoder, structureEncoder, Shape.members_undocumented,
    List.isEmpty_map, hdecoded, hencoded, List.map_map, Function.comp_def,
    Member.name_undocumented, Shape.generatedName_undocumented]

theorem unionCodec (h : k.IsOutline m P Q) (hs : m.IsWithin P s) :
    k.unionCodec s.undocumented = m.unionCodec s := by
  have hdecoded : (s.members.map .undocumented).mapM (k.decodeVariant s.undocumented) =
      s.members.mapM (m.decodeVariant s) :=
    mapM_map_congr fun e he => h.decodeVariant hs he
  have hencoded : (s.members.map .undocumented).mapM (k.encodeVariant s.undocumented) =
      s.members.mapM (m.encodeVariant s) :=
    mapM_map_congr fun e he => h.encodeVariant hs he
  simp only [Model.unionCodec, unionDecoder, unionEncoder, Shape.members_undocumented, hdecoded,
    hencoded, Shape.id_undocumented, Shape.codingKeysName_undocumented,
    Shape.generatedName_undocumented]

end

end Model.IsOutline

end ClientGen
