import ClientGen.Crate.Types
import ClientGen.Proofs.Code.Calls
import ClientGen.Proofs.Codec.Nesting
import ClientGen.Proofs.Graph.Soundness

/-!
# Which functions codecs call

A codec calls functions that are there for every codec, and functions that are there for the values
of one shape: those of its generated type, and the helpers for binary data. A codec expands the
collections that it comes to, so that the latter are functions of shapes that it leads to.
-/

namespace ClientGen

/-! ## Functions -/

/-- The functions of generated code that are not those of a shape. -/
def commonFunctions : List String :=
  ["", "Some", "Ok", "Box::new", "return Err", "Self::Unknown",
    "Vec::new", "Vec::with_capacity", "HashMap::new", "HashMap::with_capacity",
    "serde_json::Value::from", "serde_json::Value::Array", "serde_json::Value::Object",
    "serde_json::Map::new", "wire::expect_object", "wire::expect_array", "wire::entry_field",
    "wire::decode_bool", "wire::decode_integer::<i8>", "wire::decode_integer::<i16>",
    "wire::decode_integer::<i32>", "wire::decode_integer::<i64>", "wire::decode_f32",
    "wire::decode_f64", "wire::decode_str", "wire::decode_string", "wire::decode_timestamp",
    "wire::encode_timestamp", "wire::parse_key::<i8>", "wire::parse_key::<i16>",
    "wire::parse_key::<i32>", "wire::parse_key::<i64>", "OperationStack::new", "HttpRequest::new",
    "ClientError::InvalidRequest", "format!", "percent_encode"]

def Shape.functions (s : Shape) : List String :=
  match s.kind with
  | .structure _ => [s!"{s.generatedName}::decode"]
  | .union ms => [s!"{s.generatedName}::decode", s!"{s.codingKeysName}::from_wire"]
    ++ ms.map fun e => s!"Self::{Naming.typeName e.name}"
  | .enum values => [s!"{s.generatedName}::from", s!"Self::{unknownVariant values}"]
  | .primitive .blob => ["wire::decode_blob", "wire::encode_blob"]
  | .primitive _ | .list _ | .set _ | .map .. => []

namespace Shape

variable {s : Shape}

theorem functions_of_isStructure (h : s.isStructure = true) :
    s.functions = [s!"{s.generatedName}::decode"] := by
  unfold isStructure at h
  unfold functions
  cases hkind : s.kind with
  | «structure» ms => rfl
  | _ =>
    rw [hkind] at h
    cases h

theorem functions_of_isUnion (h : s.isUnion = true) : s.functions =
    [s!"{s.generatedName}::decode", s!"{s.codingKeysName}::from_wire"]
      ++ s.members.map fun e => s!"Self::{Naming.typeName e.name}" := by
  unfold isUnion at h
  unfold functions members
  cases hkind : s.kind with
  | union ms => rfl
  | _ =>
    rw [hkind] at h
    cases h

/-- The names that the functions of a shape have. -/
theorem mem_functions_cases {f : String} (h : f ∈ s.functions) :
    (s.isRecord = true ∧ f = s!"{s.generatedName}::decode") ∨
      (s.isUnion = true ∧ f = s!"{s.codingKeysName}::from_wire") ∨
      ((∃ values, s.kind = .enum values) ∧ f = s!"{s.generatedName}::from") ∨
      (∃ variant : String, f = s!"Self::{variant}") ∨
      (s.kind = .primitive .blob ∧ (f = "wire::decode_blob" ∨ f = "wire::encode_blob")) := by
  unfold functions at h
  unfold isRecord isStructure isUnion
  cases hkind : s.kind with
  | «structure» ms =>
    rw [hkind] at h
    exact .inl ⟨rfl, List.mem_singleton.1 h⟩
  | union ms =>
    rw [hkind] at h
    rcases List.mem_append.1 h with h | h
    · rcases List.mem_cons.1 h with h | h
      · exact .inl ⟨rfl, h⟩
      · exact .inr (.inl ⟨rfl, List.mem_singleton.1 h⟩)
    · obtain ⟨e, -, h⟩ := List.mem_map.1 h
      exact .inr (.inr (.inr (.inl ⟨_, h.symm⟩)))
  | enum values =>
    rw [hkind] at h
    rcases List.mem_cons.1 h with h | h
    · exact .inr (.inr (.inl ⟨⟨values, rfl⟩, h⟩))
    · exact .inr (.inr (.inr (.inl ⟨_, List.mem_singleton.1 h⟩)))
  | primitive p =>
    rw [hkind] at h
    cases p with
    | blob =>
      exact .inr (.inr (.inr (.inr ⟨rfl, (List.mem_cons.1 h).imp_right List.mem_singleton.1⟩)))
    | _ => cases h
  | list | set | map =>
    rw [hkind] at h
    cases h

end Shape

namespace Model

/-- The function is a common one, or is there for the values of one of the shapes. -/
def MayCall (m : Model) (ids : List ShapeId) (f : String) : Prop :=
  f ∈ commonFunctions ∨ ∃ s, m.IsAmong ids s ∧ f ∈ s.functions

variable {m : Model} {ids : List ShapeId} {s : Shape} {e k v : Member} {p : CodecPath}
  {source : Expr} {binding : String} {inner stmts : List Stmt}

@[simp] theorem mayCall_of_common {f : String} (h : f ∈ commonFunctions) : m.MayCall ids f :=
  .inl h

theorem IsAmong.mayCall (hs : m.IsAmong ids s) {f : String} (hf : f ∈ s.functions) :
    m.MayCall ids f := .inr ⟨s, hs, hf⟩

/-! ## Collections -/

theorem keepsTo_listDecode (hsource : source.KeepsTo (m.MayCall ids))
    (hinner : StmtsKeepTo (m.MayCall ids) inner) :
    StmtsKeepTo (m.MayCall ids) (listDecode p s e source binding inner) := by
  cases hwrapped : s.traits.isWrapped <;> cases hsparse : s.traits.isSparse <;>
    simp (disch := decide) [listDecode, listDecodeLoop, hwrapped, hsparse, StmtsKeepTo,
      Stmt.KeepsTo, ArmsKeepTo, Arm.KeepsTo, Wire.tryCall, Wire.call, withCapacity, pushTo,
      skipNull, element, present, Expr.keepsTo_method, hsource, hinner]

theorem keepsTo_mapDecode (hsource : source.KeepsTo (m.MayCall ids))
    (hinner : StmtsKeepTo (m.MayCall ids) inner) {conversion : Expr → Expr}
    (hconversion : ∀ e : Expr, e.KeepsTo (m.MayCall ids) →
      (conversion e).KeepsTo (m.MayCall ids)) :
    StmtsKeepTo (m.MayCall ids) (mapDecode p s k v source binding conversion inner) := by
  have hname := hconversion (.source (p.temp "key")) Expr.keepsTo_source
  have htext := hconversion (.method (.source (p.temp "key")) "as_str" [])
    (by simp (disch := decide) [Expr.keepsTo_method])
  cases hwrapped : s.traits.isWrapped <;> cases hsparse : s.traits.isSparse <;>
    simp (disch := decide) [mapDecode, mapDecodeEntry, hwrapped, hsparse, StmtsKeepTo,
      Stmt.KeepsTo, ArmsKeepTo, Arm.KeepsTo, Wire.tryCall, Wire.call, withCapacity, insertInto,
      skipNull, element, present, Need.IsItem, Expr.keepsTo_method, hsource, hinner, hname, htext]

theorem keepsTo_listEncode (hsource : source.KeepsTo (m.MayCall ids))
    (hinner : StmtsKeepTo (m.MayCall ids) inner) :
    StmtsKeepTo (m.MayCall ids) (listEncode p s e source binding inner) := by
  cases hwrapped : s.traits.isWrapped <;> cases hsparse : s.traits.isSparse <;>
    simp (disch := decide) [listEncode, hwrapped, hsparse, StmtsKeepTo, Stmt.KeepsTo, ArmsKeepTo,
      Arm.KeepsTo, Wire.make, Wire.value, Wire.emptyMap, withCapacity, pushTo, insertInto,
      Expr.keepsTo_method, hsource, hinner]

theorem keepsTo_mapEncode (hsource : source.KeepsTo (m.MayCall ids))
    (hinner : StmtsKeepTo (m.MayCall ids) inner) {keyText : Expr}
    (hkey : keyText.KeepsTo (m.MayCall ids)) :
    StmtsKeepTo (m.MayCall ids) (mapEncode p s k v source binding keyText inner) := by
  cases hwrapped : s.traits.isWrapped <;> cases hsparse : s.traits.isSparse <;>
    simp (disch := decide) [mapEncode, mapEncodeEntry, hwrapped, hsparse, StmtsKeepTo,
      Stmt.KeepsTo, ArmsKeepTo, Arm.KeepsTo, Wire.make, Wire.value, Wire.emptyMap, withCapacity,
      pushTo, insertInto, Expr.keepsTo_method, hsource, hinner, hkey]

/-- A text becomes a key by a function of the shape of the keys, or a common one. -/
theorem keepsTo_keyDecoder {key : ShapeId} (hkey : key ∈ ids) {conversion : Expr → Expr}
    (h : m.keyDecoder p key = .ok conversion) {e : Expr} (he : e.KeepsTo (m.MayCall ids)) :
    (conversion e).KeepsTo (m.MayCall ids) := by
  obtain ⟨s, hs, h⟩ := bind_eq_ok.1 h
  have hamong := isAmong_of_shape? hkey (resolveShape_eq_ok.1 hs)
  obtain rfl := id_of_shape? (resolveShape_eq_ok.1 hs)
  split at h
  · obtain rfl := Except.ok.inj h
    rwa [Expr.keepsTo_toOwned]
  · rename_i prim _ _
    split at h
    · rename_i type htype
      obtain rfl := Except.ok.inj h
      have hparse : "wire::parse_key::<" ++ type ++ ">" ∈ commonFunctions := by
        cases prim <;> cases htype <;> decide
      simp [he, hparse]
    · cases h
  · rename_i values hkind
    obtain rfl := Except.ok.inj h
    have hfrom : m.MayCall ids s!"{Naming.typeName s.id.name}::from" :=
      hamong.mayCall (by simp [Shape.functions, hkind, Shape.generatedName])
    simp [he, hfrom]
  · cases h

theorem keepsTo_keyEncoder {key : ShapeId} {item text : Expr}
    (h : m.keyEncoder p key item = .ok text) (hitem : item.KeepsTo (m.MayCall ids)) :
    text.KeepsTo (m.MayCall ids) := by
  obtain ⟨s, -, h⟩ := bind_eq_ok.1 h
  split at h <;> obtain rfl := Except.ok.inj h <;>
    simp (disch := decide) [Expr.keepsTo_method, hitem]

/-! ## Values -/

theorem keepsTo_leafDecoder (hs : m.IsAmong ids s) (hleaf : s.element? = none)
    (hsource : source.KeepsTo (m.MayCall ids)) :
    (s.leafDecoder source).KeepsTo (m.MayCall ids) := by
  unfold Shape.leafDecoder
  unfold Shape.element? at hleaf
  cases hkind : s.kind with
  | primitive prim =>
    cases prim with
    | blob =>
      have hblob : m.MayCall ids "wire::decode_blob" :=
        hs.mayCall (by simp [Shape.functions, hkind])
      simp [Primitive.decodeExpr, Wire.tryCall, Wire.call, hsource, hblob]
    | _ =>
      simp (disch := decide) [Primitive.decodeExpr, Wire.tryCall, Wire.call, Expr.keepsTo_method,
        hsource]
  | enum values =>
    have hfrom : m.MayCall ids s!"{Naming.typeName s.id.name}::from" :=
      hs.mayCall (by simp [Shape.functions, hkind, Shape.generatedName])
    simp (disch := decide) [Wire.tryCall, Wire.call, hsource, hfrom]
  | «structure» ms | union ms =>
    have hdecode : m.MayCall ids s!"{Naming.typeName s.id.name}::decode" :=
      hs.mayCall (by simp [Shape.functions, hkind, Shape.generatedName])
    simp [hsource, hdecode]
  | list _ | set _ | map _ _ =>
    rw [hkind] at hleaf
    cases hleaf

theorem keepsTo_leafEncoder (hs : m.IsAmong ids s) (hsource : source.KeepsTo (m.MayCall ids)) :
    (s.leafEncoder source).KeepsTo (m.MayCall ids) := by
  unfold Shape.leafEncoder
  cases hkind : s.kind with
  | primitive prim =>
    cases prim with
    | blob =>
      have hblob : m.MayCall ids "wire::encode_blob" :=
        hs.mayCall (by simp [Shape.functions, hkind])
      simp [Primitive.encodeExpr, Wire.call, hsource, hblob]
    | _ =>
      simp (disch := decide) [Primitive.encodeExpr, Wire.call, Wire.make, Expr.keepsTo_method,
        hsource]
  | _ => simp (disch := decide) [Wire.make, Expr.keepsTo_method, hsource]

theorem IsClosed.element (h : m.IsClosed ids) {id : ShapeId} (hid : id ∈ ids)
    (hs : m.shape? id = some s) (he : s.element? = some e) : e.target ∈ ids :=
  h.edges id hid s hs e (Shape.mem_edges_of_element? he)

/-- The decoder of a value calls functions of the shapes that it leads to, and common ones. -/
theorem keepsTo_decode (h : m.IsClosed ids) {id : ShapeId} (hid : id ∈ ids)
    {visiting : List ShapeId} (hsource : source.KeepsTo (m.MayCall ids))
    (hdecode : m.decode p visiting id source binding = .ok stmts) :
    StmtsKeepTo (m.MayCall ids) stmts := by
  induction visiting, id using nesting_induction (m := m)
    generalizing p source binding stmts with
  | undefined visiting id hs =>
    rw [decode_undefined hs] at hdecode
    cases hdecode
  | leaf visiting id s hs he =>
    rw [decode_leaf hs he] at hdecode
    obtain rfl := Except.ok.inj hdecode
    exact ⟨keepsTo_leafDecoder (isAmong_of_shape? hid hs) he hsource, trivial⟩
  | repeated visiting id s e hs he hvisiting =>
    rw [decode_cycle hs he hvisiting] at hdecode
    cases hdecode
  | collection visiting id s e hs he hnew ih =>
    obtain ⟨around, inner, haround, hinner, rfl⟩ := decode_collection_ok hs he hdecode
    have hkeeps := ih (h.element hid hs he) Expr.keepsTo_source hinner
    rcases collectionDecoder_cases he haround with ⟨-, rfl⟩ | ⟨k, conversion, hkind, hkey, rfl⟩
    · exact keepsTo_listDecode hsource hkeeps
    · have hmem : k.target ∈ ids := h.edges id hid s hs k (by simp [Shape.edges, hkind])
      exact keepsTo_mapDecode hsource hkeeps fun _ => keepsTo_keyDecoder hmem hkey

/-- The encoder of a value calls functions of the shapes that it leads to, and common ones. -/
theorem keepsTo_encode (h : m.IsClosed ids) {id : ShapeId} (hid : id ∈ ids)
    {visiting : List ShapeId} (hsource : source.KeepsTo (m.MayCall ids))
    (hencode : m.encode p visiting id source binding = .ok stmts) :
    StmtsKeepTo (m.MayCall ids) stmts := by
  induction visiting, id using nesting_induction (m := m)
    generalizing p source binding stmts with
  | undefined visiting id hs =>
    rw [encode_undefined hs] at hencode
    cases hencode
  | leaf visiting id s hs he =>
    rw [encode_leaf hs he] at hencode
    obtain rfl := Except.ok.inj hencode
    exact ⟨keepsTo_leafEncoder (isAmong_of_shape? hid hs) hsource, trivial⟩
  | repeated visiting id s e hs he hvisiting =>
    rw [encode_cycle hs he hvisiting] at hencode
    cases hencode
  | collection visiting id s e hs he hnew ih =>
    obtain ⟨around, inner, haround, hinner, rfl⟩ := encode_collection_ok hs he hencode
    have hkeeps := ih (h.element hid hs he) Expr.keepsTo_source hinner
    rcases collectionEncoder_cases he haround with ⟨-, rfl⟩ | ⟨k, keyText, -, hkey, rfl⟩
    · exact keepsTo_listEncode hsource hkeeps
    · exact keepsTo_mapEncode hsource hkeeps (keepsTo_keyEncoder hkey Expr.keepsTo_source)

/-! ## Records -/

variable {symbol : Symbol}

theorem keepsTo_wrapMember (x : String) :
    (wrapMember symbol (.source x)).KeepsTo (m.MayCall ids) := by
  unfold wrapMember present
  cases symbol.isBoxed <;> cases symbol.nullable <;> simp (disch := decide)

theorem keepsTo_insertMember (wire : String) :
    (insertMember s e wire).KeepsTo (m.MayCall ids) := by
  simp (disch := decide) [insertMember, insertInto, Shape.keyExpr, Stmt.KeepsTo,
    Expr.keepsTo_method]

theorem keepsTo_decodeMember (h : m.IsClosed ids) (hs : m.IsAmong ids s) (he : e ∈ s.members)
    {stmt : Stmt} (hstmt : m.decodeMember s e = .ok stmt) : stmt.KeepsTo (m.MayCall ids) := by
  obtain ⟨symbol, -, hstmt⟩ := bind_eq_ok.1 hstmt
  obtain ⟨inner, hinner, hstmt⟩ := bind_eq_ok.1 hstmt
  obtain rfl := Except.ok.inj hstmt
  have hkeeps := keepsTo_decode h (hs.target h he) Expr.keepsTo_source hinner
  have habsent : (absentArm s e symbol).KeepsTo (m.MayCall ids) := by
    unfold absentArm
    split <;> simp [Arm.KeepsTo, StmtsKeepTo, Stmt.KeepsTo]
  simp (disch := decide) [Stmt.KeepsTo, ArmsKeepTo, Arm.KeepsTo, StmtsKeepTo, Shape.keyExpr,
    Expr.keepsTo_method, habsent, hkeeps, keepsTo_wrapMember]

theorem keepsTo_encodeMember (h : m.IsClosed ids) (hs : m.IsAmong ids s) (he : e ∈ s.members)
    (hstmts : m.encodeMember s e = .ok stmts) : StmtsKeepTo (m.MayCall ids) stmts := by
  obtain ⟨symbol, -, hstmts⟩ := bind_eq_ok.1 hstmts
  dsimp only at hstmts
  split at hstmts
  all_goals
    obtain ⟨inner, hinner, hstmts⟩ := bind_eq_ok.1 hstmts
    obtain rfl := Except.ok.inj hstmts
    have hkeeps := keepsTo_encode h (hs.target h he) (by simp) hinner
    simp [StmtsKeepTo, Stmt.KeepsTo, hkeeps, keepsTo_insertMember]

/-- The code for each member keeps to the functions, and so does the code for all. -/
theorem keepsTo_structureDecoder (h : m.IsClosed ids) (hs : m.IsAmong ids s)
    (hstmts : m.structureDecoder s = .ok stmts) : StmtsKeepTo (m.MayCall ids) stmts := by
  unfold structureDecoder at hstmts
  split at hstmts
  · obtain rfl := Except.ok.inj hstmts
    simp (disch := decide) [StmtsKeepTo, Stmt.KeepsTo, Wire.tryCall, Wire.call]
  · obtain ⟨decoded, hdecoded, hstmts⟩ := bind_eq_ok.1 hstmts
    obtain rfl := Except.ok.inj hstmts
    have hkeeps : StmtsKeepTo (m.MayCall ids) decoded := by
      refine stmtsKeepTo_iff.2 fun stmt hstmt => ?_
      obtain ⟨e, he, hstmt⟩ := exists_of_mem_results hdecoded stmt hstmt
      exact keepsTo_decodeMember h hs he hstmt
    simp (disch := decide) [StmtsKeepTo, Stmt.KeepsTo, bindContainer, Wire.tryCall, Wire.call,
      hkeeps]

theorem keepsTo_structureEncoder (h : m.IsClosed ids) (hs : m.IsAmong ids s)
    (hstmts : m.structureEncoder s = .ok stmts) : StmtsKeepTo (m.MayCall ids) stmts := by
  unfold structureEncoder at hstmts
  split at hstmts
  · obtain rfl := Except.ok.inj hstmts
    simp (disch := decide) [StmtsKeepTo, Stmt.KeepsTo, Wire.make, Wire.emptyMap]
  · obtain ⟨encoded, hencoded, hstmts⟩ := bind_eq_ok.1 hstmts
    obtain rfl := Except.ok.inj hstmts
    have hkeeps : StmtsKeepTo (m.MayCall ids) encoded.flatten := by
      refine stmtsKeepTo_flatten.2 fun l hl => ?_
      obtain ⟨e, he, hl⟩ := exists_of_mem_results hencoded l hl
      exact keepsTo_encodeMember h hs he hl
    simp (disch := decide) [StmtsKeepTo, Stmt.KeepsTo, Wire.make, Wire.emptyMap, hkeeps]

theorem keepsTo_decodeVariant (h : m.IsClosed ids) (hs : m.IsAmong ids s)
    (hunion : s.isUnion = true) (he : e ∈ s.members) {arm : Arm}
    (harm : m.decodeVariant s e = .ok arm) : arm.KeepsTo (m.MayCall ids) := by
  obtain ⟨symbol, -, harm⟩ := bind_eq_ok.1 harm
  obtain ⟨inner, hinner, harm⟩ := bind_eq_ok.1 harm
  obtain rfl := Except.ok.inj harm
  have hkeeps := keepsTo_decode h (hs.target h he) Expr.keepsTo_source hinner
  have hvariant : m.MayCall ids s!"Self::{Naming.typeName e.name}" := by
    refine hs.mayCall ?_
    rw [Shape.functions_of_isUnion hunion]
    exact List.mem_append_right _ (List.mem_map.2 ⟨e, he, rfl⟩)
  cases symbol.isBoxed <;>
    simp (disch := decide) [Arm.KeepsTo, StmtsKeepTo, Stmt.KeepsTo, hkeeps, hvariant]

theorem keepsTo_encodeVariant (h : m.IsClosed ids) (hs : m.IsAmong ids s) (he : e ∈ s.members)
    {arm : Arm} (harm : m.encodeVariant s e = .ok arm) : arm.KeepsTo (m.MayCall ids) := by
  obtain ⟨inner, hinner, harm⟩ := bind_eq_ok.1 harm
  obtain rfl := Except.ok.inj harm
  have hkeeps := keepsTo_encode h (hs.target h he) Expr.keepsTo_source hinner
  simp [Arm.KeepsTo, StmtsKeepTo, hkeeps, keepsTo_insertMember]

theorem keepsTo_unionDecoder (h : m.IsClosed ids) (hs : m.IsAmong ids s)
    (hunion : s.isUnion = true) (hstmts : m.unionDecoder s = .ok stmts) :
    StmtsKeepTo (m.MayCall ids) stmts := by
  obtain ⟨arms, harms, hstmts⟩ := bind_eq_ok.1 hstmts
  obtain rfl := Except.ok.inj hstmts
  have hkeeps : ArmsKeepTo (m.MayCall ids) arms := by
    refine armsKeepTo_iff.2 fun arm harm => ?_
    obtain ⟨e, he, harm⟩ := exists_of_mem_results harms arm harm
    exact keepsTo_decodeVariant h hs hunion he harm
  have hkey : m.MayCall ids s!"{s.codingKeysName}::from_wire" := by
    refine hs.mayCall ?_
    rw [Shape.functions_of_isUnion hunion]
    exact List.mem_append_left _ (by simp)
  simp (disch := decide) [StmtsKeepTo, Stmt.KeepsTo, ArmsKeepTo, Arm.KeepsTo, bindContainer,
    Wire.tryCall, Wire.call, Expr.keepsTo_method, hkeeps, hkey]

theorem keepsTo_unionEncoder (h : m.IsClosed ids) (hs : m.IsAmong ids s)
    (hstmts : m.unionEncoder s = .ok stmts) : StmtsKeepTo (m.MayCall ids) stmts := by
  obtain ⟨arms, harms, hstmts⟩ := bind_eq_ok.1 hstmts
  obtain rfl := Except.ok.inj hstmts
  have hkeeps : ArmsKeepTo (m.MayCall ids) arms := by
    refine armsKeepTo_iff.2 fun arm harm => ?_
    obtain ⟨e, he, harm⟩ := exists_of_mem_results harms arm harm
    exact keepsTo_encodeVariant h hs he harm
  simp (disch := decide) [StmtsKeepTo, Stmt.KeepsTo, ArmsKeepTo, Arm.KeepsTo, Wire.make,
    Wire.emptyMap, hkeeps]

/-- A structure is encoded with what encodes the leaves among its members. -/
theorem callsIn_structureEncoder (he : e ∈ s.members) {leaf : Shape}
    (hs : m.shape? e.target = some leaf) (hleaf : leaf.element? = none) {f : String}
    (hcalls : ∀ source, ∃ x ∈ (leaf.leafEncoder source).parts, x.Calls f)
    (hstmts : m.structureEncoder s = .ok stmts) : CallsIn f stmts := by
  have hinner {p : CodecPath} {source : Expr} {binding : String} {inner rest : List Stmt}
      (hinner : m.encode p [] e.target source binding = .ok inner) :
      ∃ x ∈ occurrencesOfStmts some 0 (inner ++ rest), x.2.Calls f := by
    rw [encode_leaf hs hleaf] at hinner
    obtain rfl := Except.ok.inj hinner
    obtain ⟨x, hx, hcall⟩ := hcalls source
    refine ⟨(0, x), List.mem_append_left _ (List.mem_map_of_mem ?_), hcall⟩
    rwa [List.filterMap_some]
  unfold structureEncoder at hstmts
  split at hstmts
  · rename_i hempty
    rw [List.isEmpty_iff.1 hempty] at he
    cases he
  · obtain ⟨encoded, hencoded, hstmts⟩ := bind_eq_ok.1 hstmts
    obtain rfl := Except.ok.inj hstmts
    obtain ⟨l, hl, hmember⟩ := exists_of_mem_mapM hencoded e he
    have hfound : ∃ x ∈ occurrencesOfStmts some 0 l, x.2.Calls f := by
      obtain ⟨symbol, -, hmember⟩ := bind_eq_ok.1 hmember
      dsimp only at hmember
      split at hmember
      · obtain ⟨inner, hencode, hmember⟩ := bind_eq_ok.1 hmember
        obtain rfl := Except.ok.inj hmember
        obtain ⟨x, hx, hcall⟩ := hinner hencode
        exact ⟨x, List.mem_append_left _ (List.mem_append_right _ hx), hcall⟩
      · obtain ⟨inner, hencode, hmember⟩ := bind_eq_ok.1 hmember
        obtain rfl := Except.ok.inj hmember
        exact hinner hencode
    obtain ⟨x, hx, hcall⟩ := hfound
    refine ⟨x, ?_, hcall⟩
    rw [List.cons_append, occurrencesOfStmts, occurrencesOfStmts_append, occurrencesOfStmts_flatten]
    exact List.mem_append_right _ (List.mem_append_left _ (List.mem_flatMap.2 ⟨l, hl, hx⟩))

/-! ## Items -/

theorem keepsTo_codingKeyItems (s : Shape) :
    ∀ x ∈ s.codingKeyItems, x.KeepsTo (m.MayCall ids) := by
  have hstr : ArmsKeepTo (m.MayCall ids) s.asStrArms := by
    refine armsKeepTo_iff.2 fun arm harm => ?_
    obtain ⟨key, -, rfl⟩ := List.mem_map.1 harm
    exact Expr.keepsTo_literal
  have hwire : ArmsKeepTo (m.MayCall ids) s.fromWireArms := by
    refine armsKeepTo_append.2
      ⟨armsKeepTo_iff.2 fun arm harm => ?_, by simp [ArmsKeepTo, Arm.KeepsTo]⟩
    obtain ⟨key, -, rfl⟩ := List.mem_map.1 harm
    simp (disch := decide) [Arm.KeepsTo, CodingKey.path]
  cases hempty : s.members.isEmpty <;>
    simp [Shape.codingKeyItems, hempty, Item.KeepsTo, Item.bodies, StmtsKeepTo, Stmt.KeepsTo, hstr,
      hwire]

theorem keepsTo_enumItems {values : List EnumValue} (hs : m.IsAmong ids s)
    (hkind : s.kind = .enum values) :
    ∀ x ∈ s.enumItems values, x.KeepsTo (m.MayCall ids) := by
  have hunknown : m.MayCall ids s!"Self::{unknownVariant values}" :=
    hs.mayCall (by simp [Shape.functions, hkind])
  have hstr : ArmsKeepTo (m.MayCall ids)
      (values.map fun v => .value (.source s!"Self::{v.variant}") (.literal v.value)) := by
    refine armsKeepTo_iff.2 fun arm harm => ?_
    obtain ⟨v, -, rfl⟩ := List.mem_map.1 harm
    exact Expr.keepsTo_literal
  have hfrom : ArmsKeepTo (m.MayCall ids)
      (values.map fun v => .value (.literal v.value) (.source s!"Self::{v.variant}")) := by
    refine armsKeepTo_iff.2 fun arm harm => ?_
    obtain ⟨v, -, rfl⟩ := List.mem_map.1 harm
    exact Expr.keepsTo_source
  simp (disch := decide) [Shape.enumItems, Shape.enumItem, Shape.enumValues, Shape.enumFrom,
    Shape.enumDisplay, Item.KeepsTo, Item.bodies, StmtsKeepTo, Stmt.KeepsTo, ArmsKeepTo,
    Arm.KeepsTo, Expr.keepsTo_method, hstr, hfrom, hunknown]

theorem bodies_structureItem {type : Item} (h : m.structureItem s = .ok type) :
    type.bodies = [] := by
  obtain ⟨fields, -, h⟩ := bind_eq_ok.1 h
  obtain rfl := Except.ok.inj h
  rfl

theorem bodies_unionItem {type : Item} (h : m.unionItem s = .ok type) : type.bodies = [] := by
  obtain ⟨variants, -, h⟩ := bind_eq_ok.1 h
  obtain rfl := Except.ok.inj h
  rfl

theorem keepsTo_structureCodec (h : m.IsClosed ids) (hs : m.IsAmong ids s) {codec : Item}
    (hcodec : m.structureCodec s = .ok codec) : codec.KeepsTo (m.MayCall ids) := by
  obtain ⟨decoder, hdecoder, hcodec⟩ := bind_eq_ok.1 hcodec
  obtain ⟨encoder, hencoder, hcodec⟩ := bind_eq_ok.1 hcodec
  obtain rfl := Except.ok.inj hcodec
  exact List.forall_mem_cons.2 ⟨keepsTo_structureDecoder h hs hdecoder,
    List.forall_mem_singleton.2 (keepsTo_structureEncoder h hs hencoder)⟩

theorem keepsTo_unionCodec (h : m.IsClosed ids) (hs : m.IsAmong ids s) (hunion : s.isUnion = true)
    {codec : Item} (hcodec : m.unionCodec s = .ok codec) : codec.KeepsTo (m.MayCall ids) := by
  obtain ⟨decoder, hdecoder, hcodec⟩ := bind_eq_ok.1 hcodec
  obtain ⟨encoder, hencoder, hcodec⟩ := bind_eq_ok.1 hcodec
  obtain rfl := Except.ok.inj hcodec
  exact List.forall_mem_cons.2 ⟨keepsTo_unionDecoder h hs hunion hdecoder,
    List.forall_mem_singleton.2 (keepsTo_unionEncoder h hs hencoder)⟩

/-- A type has no functions, so those of a record are the functions of its keys and its codec. -/
theorem keepsTo_recordItems {type codec : Item} (htype : type.bodies = [])
    (hcodec : codec.KeepsTo (m.MayCall ids)) :
    ∀ x ∈ type :: s.codingKeyItems ++ [codec], x.KeepsTo (m.MayCall ids) := by
  have hbare : type.KeepsTo (m.MayCall ids) := by
    rw [Item.KeepsTo, htype]
    exact List.forall_mem_nil _
  rw [List.forall_mem_append, List.forall_mem_cons, List.forall_mem_singleton]
  exact ⟨⟨hbare, keepsTo_codingKeyItems s⟩, hcodec⟩

/-- The functions of the items of a shape call functions of the shapes that it leads to, and common
ones. -/
theorem keepsTo_shapeItems (h : m.IsClosed ids) {id : ShapeId} (hid : id ∈ ids)
    {items : List Item} (hitems : m.shapeItems id = .ok items) :
    ∀ x ∈ items, x.KeepsTo (m.MayCall ids) := by
  obtain ⟨s, hs, hitems⟩ := bind_eq_ok.1 hitems
  have hamong : m.IsAmong ids s := isAmong_of_shape? hid (resolveShape_eq_ok.1 hs)
  cases hkind : s.kind with
  | «structure» ms =>
    rw [hkind] at hitems
    obtain ⟨type, htype, hitems⟩ := bind_eq_ok.1 hitems
    obtain ⟨codec, hcodec, hitems⟩ := bind_eq_ok.1 hitems
    obtain rfl := Except.ok.inj hitems
    exact keepsTo_recordItems (bodies_structureItem htype)
      (keepsTo_structureCodec h hamong hcodec)
  | union ms =>
    rw [hkind] at hitems
    obtain ⟨type, htype, hitems⟩ := bind_eq_ok.1 hitems
    obtain ⟨codec, hcodec, hitems⟩ := bind_eq_ok.1 hitems
    obtain rfl := Except.ok.inj hitems
    have hunion : s.isUnion = true := by simp [Shape.isUnion, hkind]
    exact keepsTo_recordItems (bodies_unionItem htype) (keepsTo_unionCodec h hamong hunion hcodec)
  | enum values =>
    rw [hkind] at hitems
    obtain rfl := Except.ok.inj hitems
    exact keepsTo_enumItems hamong hkind
  | list _ | set _ | map _ _ | primitive _ =>
    rw [hkind] at hitems
    obtain ⟨symbol, -, hitems⟩ := bind_eq_ok.1 hitems
    obtain rfl := Except.ok.inj hitems
    exact List.forall_mem_singleton.2 (List.forall_mem_nil _)

/-- An item of the module is one of the items of a shape. -/
theorem exists_of_mem_items {t : Module} (ht : m.typesModule ids = .ok t) {x : Item}
    (hx : x ∈ t.items) : ∃ id ∈ ids, ∃ items, m.shapeItems id = .ok items ∧ x ∈ items := by
  obtain ⟨pieces, hpieces, ht⟩ := bind_eq_ok.1 ht
  obtain rfl := Except.ok.inj ht
  obtain ⟨items, hitems, hx⟩ := List.mem_flatten.1 hx
  obtain ⟨id, hid, hshape⟩ := exists_of_mem_results hpieces items hitems
  exact ⟨id, hid, items, hshape, hx⟩

/-- All items of its shapes are in the module. -/
theorem exists_shapeItems {t : Module} (ht : m.typesModule ids = .ok t) {id : ShapeId}
    (hid : id ∈ ids) : ∃ items, m.shapeItems id = .ok items ∧ ∀ x ∈ items, x ∈ t.items := by
  obtain ⟨pieces, hpieces, ht⟩ := bind_eq_ok.1 ht
  obtain rfl := Except.ok.inj ht
  obtain ⟨items, hitems, hshape⟩ := exists_of_mem_mapM hpieces id hid
  exact ⟨items, hshape, fun x hx => List.mem_flatten.2 ⟨items, hitems, hx⟩⟩

/-- The functions of the module of the types call functions of its shapes, and common ones. -/
theorem keepsTo_typesModule (h : m.IsClosed ids) {t : Module} (ht : m.typesModule ids = .ok t) :
    ∀ x ∈ t.items, x.KeepsTo (m.MayCall ids) := by
  intro x hx
  obtain ⟨id, hid, items, hitems, hx⟩ := exists_of_mem_items ht hx
  exact keepsTo_shapeItems h hid hitems x hx

/-- The encoder of a structure among the shapes is a function of the module. -/
theorem exists_encoder {t : Module} (ht : m.typesModule ids = .ok t) (hs : m.IsAmong ids s)
    (hstructure : s.isStructure = true) :
    ∃ encoder ∈ t.bodies, m.structureEncoder s = .ok encoder := by
  obtain ⟨items, hitems, hmem⟩ := exists_shapeItems ht hs.mem
  rw [shapeItems, ok_bind (resolveShape_eq_ok.2 hs.shape)] at hitems
  unfold Shape.isStructure at hstructure
  cases hkind : s.kind with
  | «structure» ms =>
    rw [hkind] at hitems
    obtain ⟨type, -, hitems⟩ := bind_eq_ok.1 hitems
    obtain ⟨codec, hcodec, hitems⟩ := bind_eq_ok.1 hitems
    obtain rfl := Except.ok.inj hitems
    obtain ⟨decoder, -, hcodec⟩ := bind_eq_ok.1 hcodec
    obtain ⟨encoder, hencoder, hcodec⟩ := bind_eq_ok.1 hcodec
    obtain rfl := Except.ok.inj hcodec
    refine ⟨encoder, List.mem_flatMap.2 ⟨_, hmem _
      (List.mem_append_right _ (List.mem_singleton_self _)), ?_⟩, hencoder⟩
    exact List.mem_cons_of_mem _ (List.mem_singleton_self _)
  | _ =>
    rw [hkind] at hstructure
    cases hstructure

end Model

end ClientGen
