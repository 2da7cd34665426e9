import ClientGen.Codec.Emission
import ClientGen.Proofs.Codec.Writing

/-!
# Key types and codecs as they are written

The calls that write the type of the keys and the codec of a structure or union write the code of
these items, or fail where making the items does. No call among them meets a scope that is not open,
and none leaves one open: the scopes after a member, a variant or a function are those before it.
-/

namespace ClientGen

open Writer

namespace Shape

variable (s : Shape) (w : Writer)

theorem writeKeyType_eq : s.writeKeyType w = .ok (w.emit (Item.code
    (.enum (some s!"Wire keys of [`{s.generatedName}`], one per member in declaration order.")
      ["Debug", "Clone", "Copy", "PartialEq", "Eq", "Hash"] s.codingKeysName
      (s.codingKeys.map fun k => ⟨none, k.variant, none⟩)))) := by
  have hkeys : ∀ w : Writer, s.codingKeys.foldl (fun w k => w.write s!"{k.variant},") w =
      w.emit ((s.codingKeys.map fun k => (⟨none, k.variant, none⟩ : EnumVariant)).flatMap
        EnumVariant.code) := by
    intro w
    rw [List.flatMap_map]
    exact foldl_emit (fun _ _ => rfl) s.codingKeys w
  rw [writeKeyType, hkeys, openEnum, closeScope_emit_openScope, writeDerives_eq, writeDoc]
  simp only [bind_ok, writeBlank, emit_emit, Item.code, docCode]
  rfl

theorem writeAsStr_eq : s.writeAsStr w = .ok (w.emit (Associated.code
    (.function (some "Key used in the wire container.") true
      ⟨"as_str", ["self"], "&'static str", []⟩ [.matchOn (.source "self") s.asStrArms]))) := by
  rw [writeAsStr, foldl_writeArm, closeScope_openMatch, bind_ok]
  exact closeScope_openFunction (some "Key used in the wire container.") true
    ⟨"as_str", ["self"], "&'static str", []⟩ _ w

/-- Without keys there is no match, since it would have nothing to look at. -/
theorem writeFromWire_eq : s.writeFromWire w = .ok (w.emit (Associated.code
    (.function (some "Looks up the key for a wire container entry.") true
      ⟨"from_wire", ["key: &str"], "Option<Self>", []⟩
      (if s.members.isEmpty then [.bind "_" (.source "key"), .result (.source "None")]
        else [.matchOn (.source "key") s.fromWireArms])))) := by
  have hfunction := fun body =>
    closeScope_openFunction (some "Looks up the key for a wire container entry.") true
      ⟨"from_wire", ["key: &str"], "Option<Self>", []⟩ body w
  unfold writeFromWire
  dsimp only
  split
  · rw [writeStmt_eq, writeStmt_eq, writeStmts_writeStmts, bind_ok]
    exact hfunction _
  · rw [foldl_writeArm, closeScope_openMatch, bind_ok]
    exact hfunction _

theorem writeCodingKeys_eq :
    s.writeCodingKeys w = .ok (w.emit (s.codingKeyItems.flatMap Item.code)) := by
  simp only [writeCodingKeys, writeKeyType_eq, writeAsStr_eq, writeFromWire_eq, bind_ok, writeBlank,
    writeConstant, write, emit_emit, openImpl, closeScope_emit_openScope,
    codingKeyItems, List.flatMap_cons, List.flatMap_nil, Item.code, separated,
    List.map_cons, List.map_nil]
  congr 2

end Shape

namespace Model

variable (m : Model) (s : Shape) (e : Member)

/-! ## Structures -/

@[simp] theorem toCodecPath_ofMember (name : String) :
    (CodecTrail.ofMember name).toCodecPath = .ofMember name := rfl

theorem writes_decode_member (name : String) (target : ShapeId) (source : Expr)
    (binding : String) : Writes
      (fun w => m.writeDecode ⟨w, .ofMember name⟩ target source binding) (.ofMember name)
      (m.decode (.ofMember name) [] target source binding) :=
  m.writes_writeDecode (.ofMember name) target source binding

theorem writes_encode_member (name : String) (target : ShapeId) (source : Expr)
    (binding : String) : Writes
      (fun w => m.writeEncode ⟨w, .ofMember name⟩ target source binding) (.ofMember name)
      (m.encode (.ofMember name) [] target source binding) :=
  m.writes_writeEncode (.ofMember name) target source binding

theorem writeAbsentArm_eq (symbol : Symbol) (w : Writer) :
    writeAbsentArm s e symbol w = .ok (w.writeArms [absentArm s e symbol]) := by
  unfold writeAbsentArm absentArm
  split
  · have hfail := fun w : Writer => w.closeScope_openFail "DecodeError::MissingRequiredMember"
      [("shape", .literal s.id.name), ("member", .literal e.wireName)]
    simp only [writeField, emit_emit, List.map_cons, List.map_nil] at hfail ⊢
    rw [List.singleton_append, hfail, bind_ok, closeScope_openArm]
  · rfl

/-- The decoder of a member, with its value decoded in the arm for one that is there. -/
theorem emits_writeMemberDecoder : Emits (m.writeMemberDecoder s · e)
    ((m.decodeMember s e).map fun stmt => [stmt.code]) := by
  intro w
  have hinner := writes_decode_member m e.name e.target
    (.source ((CodecPath.ofMember e.name).ofRole "wire"))
    ((CodecPath.ofMember e.name).ofRole "member")
  change m.writeMemberDecoder s w e = _
  unfold writeMemberDecoder decodeMember
  cases m.memberSymbol modelNamespace s.id e with
  | error err => rfl
  | ok symbol =>
    simp only [bind_ok, writeAbsentArm_eq, toCodecPath_ofMember]
    generalize m.decode _ _ _ _ _ = decoded at hinner ⊢
    cases decoded with
    | error err => simp [hinner.error, Except.map]
    | ok inner =>
      simp [hinner.ok, Except.map]
      rfl

/-- The encoder of a member, in a block of its own where the member can be absent. -/
theorem emits_writeMemberEncoder : Emits (m.writeMemberEncoder s · e)
    ((m.encodeMember s e).map codeOfStmts) := by
  intro w
  have hinner := fun source => writes_encode_member m e.name e.target source
    ((CodecPath.ofMember e.name).ofRole "wire")
  change m.writeMemberEncoder s w e = _
  unfold writeMemberEncoder encodeMember
  cases m.memberSymbol modelNamespace s.id e with
  | error err => rfl
  | ok symbol =>
    simp only [bind_ok, toCodecPath_ofMember]
    split
    · replace hinner := hinner (.source ((CodecPath.ofMember e.name).ofRole "present"))
      generalize m.encode _ _ _ _ _ = encoded at hinner ⊢
      cases encoded with
      | error err => simp [hinner.error, Except.map]
      | ok inner =>
        simp [hinner.ok, Except.map]
        rfl
    · replace hinner := hinner ((Expr.source "self").field (Naming.fieldName e.name)).borrow
      generalize m.encode _ _ _ _ _ = encoded at hinner ⊢
      cases encoded with
      | error err => simp [hinner.error, Except.map]
      | ok inner =>
        simp [hinner.ok, Except.map]
        rfl

theorem emits_writeStructureDecoder : Emits (m.writeStructureDecoder s)
    ((m.structureDecoder s).map fun body =>
      Associated.code (.function (some s.structureDecoderDocs) true decodeSignature body)) := by
  intro w
  have hfunction := fun body =>
    closeScope_openFunction (some s.structureDecoderDocs) true decodeSignature body w
  unfold writeStructureDecoder structureDecoder
  dsimp only
  split
  · rw [writeStmt_eq, writeStmt_eq, writeStmts_writeStmts, bind_ok]
    exact hfunction _
  · rw [writeStmt_eq, Emits.foldlM_stmt (emits_writeMemberDecoder m s)]
    cases s.members.mapM (m.decodeMember s) with
    | error e => rfl
    | ok decoded =>
      simp only [Except.map, bind_ok, writeStmts_writeStmts, closeScope_openConstruct_true]
      exact hfunction _

theorem emits_writeStructureEncoder : Emits (m.writeStructureEncoder s)
    ((m.structureEncoder s).map fun body =>
      Associated.code (.function (some s.structureEncoderDocs) true encodeSignature body)) := by
  intro w
  have hfunction := fun body =>
    closeScope_openFunction (some s.structureEncoderDocs) true encodeSignature body w
  unfold writeStructureEncoder structureEncoder
  dsimp only
  split
  · rw [writeStmt_eq, bind_ok]
    exact hfunction _
  · rw [writeStmt_eq, Emits.foldlM_stmts (emits_writeMemberEncoder m s)]
    cases s.members.mapM (m.encodeMember s) with
    | error e => rfl
    | ok encoded =>
      simp only [Except.map, bind_ok, writeStmt_eq, writeStmts_writeStmts]
      exact hfunction _

/-- Two functions are written into the implementation of a type, one behind the other. -/
theorem emits_codec {calls others : Writer → Except GenerationError Writer}
    {first second : Except GenerationError (List Stmt)} {f g : List Stmt → Associated}
    (hfirst : Emits calls (first.map fun body => (f body).code))
    (hsecond : Emits others (second.map fun body => (g body).code)) (name : String) :
    Emits (fun w => do
      let w ← calls (w.openImpl none name)
      let w ← others w.writeBlank
      let w ← w.closeScope "\x7d"
      .ok w.writeBlank)
      (do
        let first ← first
        let second ← second
        .ok (Item.code (.impl none name [f first, g second]))) := by
  intro w
  dsimp only
  rw [hfirst (w.openImpl none name)]
  cases first with
  | error e => rfl
  | ok first =>
    simp only [Except.map, bind_ok]
    rw [hsecond]
    cases second with
    | error e => rfl
    | ok second =>
      simp only [Except.map, bind_ok, writeBlank, emit_emit, openImpl, closeScope_emit_openScope,
        Item.code, List.map_cons, List.map_nil, separated_cons]
      simp

theorem emits_writeStructureCodec :
    Emits (m.writeStructureCodec s) ((m.structureCodec s).map Item.code) := by
  intro w
  refine (emits_codec (emits_writeStructureDecoder m s) (emits_writeStructureEncoder m s)
    s.generatedName w).trans ?_
  unfold structureCodec
  cases m.structureDecoder s with
  | error e => rfl
  | ok decoder =>
    cases m.structureEncoder s with
    | error e => rfl
    | ok encoder => rfl

/-! ## Unions -/

theorem emits_writeVariantDecoder : Emits (m.writeVariantDecoder s · e)
    ((m.decodeVariant s e).map fun arm => [arm.code]) := by
  intro w
  have hinner := writes_decode_member m e.name e.target (.source "variant")
    ((CodecPath.ofMember e.name).ofRole "member")
  change m.writeVariantDecoder s w e = _
  unfold writeVariantDecoder decodeVariant
  cases m.memberSymbol modelNamespace s.id e with
  | error err => rfl
  | ok symbol =>
    simp only [bind_ok, toCodecPath_ofMember]
    generalize m.decode _ _ _ _ _ = decoded at hinner ⊢
    cases decoded with
    | error err => simp [hinner.error, Except.map]
    | ok inner =>
      simp [hinner.ok, Except.map]
      rfl

theorem emits_writeUnionDecoder : Emits (m.writeUnionDecoder s)
    ((m.unionDecoder s).map fun body =>
      Associated.code (.function (some s.unionDecoderDocs) true decodeSignature body)) := by
  intro w
  have hfunction := fun body =>
    closeScope_openFunction (some s.unionDecoderDocs) true decodeSignature body w
  unfold writeUnionDecoder unionDecoder
  simp only [writeStmt_eq, writeArm_eq, writeStmts_writeStmts, writeArms_writeArms,
    closeScope_openBindPair, bind_ok, Emits.foldlM_arm (emits_writeVariantDecoder m s)]
  cases s.members.mapM (m.decodeVariant s) with
  | error e => rfl
  | ok arms =>
    simp only [Except.map, bind_ok, writeArms_writeArms, closeScope_openMatch,
      writeStmts_writeStmts]
    exact hfunction _

theorem emits_writeVariantEncoder : Emits (m.writeVariantEncoder s · e)
    ((m.encodeVariant s e).map fun arm => [arm.code]) := by
  intro w
  have hinner := writes_encode_member m e.name e.target
    (.source ((CodecPath.ofMember e.name).ofRole "variant"))
    ((CodecPath.ofMember e.name).ofRole "wire")
  change m.writeVariantEncoder s w e = _
  unfold writeVariantEncoder encodeVariant
  simp only [toCodecPath_ofMember]
  generalize m.encode _ _ _ _ _ = encoded at hinner ⊢
  cases encoded with
  | error err => simp [hinner.error, Except.map]
  | ok inner =>
    simp [hinner.ok, Except.map]
    rfl

theorem emits_writeUnionEncoder : Emits (m.writeUnionEncoder s)
    ((m.unionEncoder s).map fun body =>
      Associated.code (.function (some s.unionEncoderDocs) true encodeSignature body)) := by
  intro w
  have hfunction := fun body =>
    closeScope_openFunction (some s.unionEncoderDocs) true encodeSignature body w
  unfold writeUnionEncoder unionEncoder
  simp only [writeStmt_eq, writeArm_eq, Emits.foldlM_arm (emits_writeVariantEncoder m s)]
  cases s.members.mapM (m.encodeVariant s) with
  | error e => rfl
  | ok arms =>
    simp only [Except.map, bind_ok, writeArms_writeArms, closeScope_openMatch,
      writeStmts_writeStmts]
    exact hfunction _

theorem emits_writeUnionCodec :
    Emits (m.writeUnionCodec s) ((m.unionCodec s).map Item.code) := by
  intro w
  refine (emits_codec (emits_writeUnionDecoder m s) (emits_writeUnionEncoder m s)
    s.generatedName w).trans ?_
  unfold unionCodec
  cases m.unionDecoder s with
  | error e => rfl
  | ok decoder =>
    cases m.unionEncoder s with
    | error e => rfl
    | ok encoder => rfl

end Model

end ClientGen
