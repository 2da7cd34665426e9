import ClientGen.Codec.Record
import ClientGen.Codec.Trail

/-!
# Key types and codecs of records, written call by call

What is written for a structure or union, besides its type: the type of its keys and its codec. Each
line is a call on the module that is being written, and each scope is opened and closed by a call of
its own; to close a scope that is not open is an error, which ends the writing.
-/

namespace ClientGen

/-! ## Keys -/

namespace Shape

def writeKeyType (s : Shape) (w : Writer) : Except GenerationError Writer := do
  let w := w.writeDoc s!"Wire keys of [`{s.generatedName}`], one per member in declaration order."
  let w := w.writeDerives ["Debug", "Clone", "Copy", "PartialEq", "Eq", "Hash"]
  let w := w.openEnum s.codingKeysName
  let w := s.codingKeys.foldl (fun w k => w.write s!"{k.variant},") w
  let w ← w.closeScope "\x7d"
  .ok w.writeBlank

/-- Writes the function from the keys to their texts. -/
def writeAsStr (s : Shape) (w : Writer) : Except GenerationError Writer := do
  let w := w.writeDoc "Key used in the wire container."
  let w := w.openFunction true ⟨"as_str", ["self"], "&'static str", []⟩
  let w := w.openMatch (.source "self")
  let w := s.asStrArms.foldl Writer.writeArm w
  let w ← w.closeScope "\x7d"
  w.closeScope "\x7d"

/-- Writes the function from texts to the keys. -/
def writeFromWire (s : Shape) (w : Writer) : Except GenerationError Writer := do
  let w := w.writeDoc "Looks up the key for a wire container entry."
  let w := w.openFunction true ⟨"from_wire", ["key: &str"], "Option<Self>", []⟩
  let w ← if s.members.isEmpty then
      let w := w.writeStmt (.bind "_" (.source "key"))
      .ok (w.writeStmt (.result (.source "None")))
    else
      let w := w.openMatch (.source "key")
      let w := s.fromWireArms.foldl Writer.writeArm w
      w.closeScope "\x7d"
  w.closeScope "\x7d"

def writeCodingKeys (s : Shape) (w : Writer) : Except GenerationError Writer := do
  let w ← s.writeKeyType w
  let w := w.openImpl none s.codingKeysName
  let w := w.writeConstant "ALL" "&'static [Self]" (s.codingKeys.map CodingKey.path)
  let w := w.writeBlank
  let w ← s.writeAsStr w
  let w := w.writeBlank
  let w ← s.writeFromWire w
  let w ← w.closeScope "\x7d"
  .ok w.writeBlank

/-! ## Documentation of the codecs -/

def structureDecoderDocs (s : Shape) : String :=
  s!"Decodes a `{s.generatedName}` from its keyed wire container.\n\n"
    ++ "## Errors\n\nFails when the value has the wrong type or a required member is missing."

def structureEncoderDocs (s : Shape) : String :=
  s!"Encodes this `{s.generatedName}` as a keyed wire container."

def unionDecoderDocs (s : Shape) : String :=
  s!"Decodes a `{s.generatedName}` from a container holding exactly one "
    ++ "variant.\n\nKeys this client does not know decode to `Unknown`."

def unionEncoderDocs (s : Shape) : String :=
  s!"Encodes this `{s.generatedName}` as a single-key container. "
    ++ "`Unknown` encodes as an empty object."

end Shape

namespace Model

/-! ## Structures -/

/-- Writes the arm for a member that is absent. -/
def writeAbsentArm (s : Shape) (e : Member) (symbol : Symbol) (w : Writer) :
    Except GenerationError Writer :=
  if e.required && e.traits.default?.isNone then do
    let w := w.openArm .absent
    let w := w.openFail "DecodeError::MissingRequiredMember"
    let w := w.writeField "shape" (some (.literal s.id.name))
    let w := w.writeField "member" (some (.literal e.wireName))
    let w ← w.closeScope "\x7d);"
    w.closeScope "\x7d"
  else .ok (w.writeArm (.value .absent (.source symbol.absentValue)))

/-- Writes what binds the decoded member of a structure. -/
def writeMemberDecoder (m : Model) (s : Shape) (w : Writer) (e : Member) :
    Except GenerationError Writer := do
  let symbol ← m.memberSymbol modelNamespace s.id e
  let t := CodecTrail.ofMember e.name
  let wire := t.ofRole "wire"
  let value := t.ofRole "member"
  let w := w.openBindMatch (t.ofRole "decoded")
    (.method (.source "container") "get" [s.keyExpr e])
  let w ← writeAbsentArm s e symbol w
  let w := w.openArm (.some wire)
  let c ← m.writeDecode ⟨w, t⟩ e.target (.source wire) value
  let w := c.writer.writeStmt (.result (wrapMember symbol (.source value)))
  let w ← w.closeScope "\x7d"
  w.closeScope "\x7d;"

def writeStructureDecoder (m : Model) (s : Shape) (w : Writer) : Except GenerationError Writer := do
  let w := w.writeDoc s.structureDecoderDocs
  let w := w.openFunction true decodeSignature
  let w ← if s.members.isEmpty then
      let w := w.writeStmt (.run (Wire.tryCall "expect_object" (.source "value")))
      .ok (w.writeStmt (.result (.source "Ok(Self \x7b\x7d)")))
    else do
      let w := w.writeStmt bindContainer
      let w ← s.members.foldlM (m.writeMemberDecoder s) w
      let fields := s.members.map fun e =>
        (Naming.fieldName e.name, some (Expr.source ((CodecPath.ofMember e.name).ofRole "decoded")))
      let w := w.openConstruct true
      let w := fields.foldl (fun w (name, e) => w.writeField name e) w
      w.closeScope "\x7d)"
  w.closeScope "\x7d"

/-- Writes what encodes the member of a structure, if it is there. -/
def writeMemberEncoder (m : Model) (s : Shape) (w : Writer) (e : Member) :
    Except GenerationError Writer := do
  let symbol ← m.memberSymbol modelNamespace s.id e
  let t := CodecTrail.ofMember e.name
  let wire := t.ofRole "wire"
  let place := ((Expr.source "self").field (Naming.fieldName e.name)).borrow
  if symbol.nullable then
    let present := t.ofRole "present"
    let w := w.openIfLet (.some present) place
    let c ← m.writeEncode ⟨w, t⟩ e.target (.source present) wire
    let w := c.writer.writeStmt (insertMember s e wire)
    w.closeScope "\x7d"
  else
    let c ← m.writeEncode ⟨w, t⟩ e.target place wire
    .ok (c.writer.writeStmt (insertMember s e wire))

def writeStructureEncoder (m : Model) (s : Shape) (w : Writer) : Except GenerationError Writer := do
  let w := w.writeDoc s.structureEncoderDocs
  let w := w.openFunction true encodeSignature
  let w ← if s.members.isEmpty then
      .ok (w.writeStmt (.result (Wire.make "Object" Wire.emptyMap)))
    else do
      let w := w.writeStmt (.bindMut "container" Wire.emptyMap)
      let w ← s.members.foldlM (m.writeMemberEncoder s) w
      .ok (w.writeStmt (.result (Wire.make "Object" (.source "container"))))
  w.closeScope "\x7d"

def writeStructureCodec (m : Model) (s : Shape) (w : Writer) : Except GenerationError Writer := do
  let w := w.openImpl none s.generatedName
  let w ← m.writeStructureDecoder s w
  let w := w.writeBlank
  let w ← m.writeStructureEncoder s w
  let w ← w.closeScope "\x7d"
  .ok w.writeBlank

/-! ## Unions -/

/-- Writes the arm that decodes a variant. -/
def writeVariantDecoder (m : Model) (s : Shape) (w : Writer) (e : Member) :
    Except GenerationError Writer := do
  let symbol ← m.memberSymbol modelNamespace s.id e
  let t := CodecTrail.ofMember e.name
  let value := t.ofRole "member"
  let held := if symbol.isBoxed then Expr.call "Box::new" [.source value] else .source value
  let w := w.openArm (.source s!"Some({s.codingKeyPath e})")
  let c ← m.writeDecode ⟨w, t⟩ e.target (.source "variant") value
  let w := c.writer.writeStmt
    (.result (.call "Ok" [.call s!"Self::{Naming.typeName e.name}" [held]]))
  w.closeScope "\x7d"

def writeUnionDecoder (m : Model) (s : Shape) (w : Writer) : Except GenerationError Writer := do
  let next := Expr.method (.source "present") "next" []
  let invalid := Expr.record "DecodeError::InvalidUnion" [("shape", .literal s.id.name)]
  let unknown := Expr.call "Ok" [.call "Self::Unknown" [.method (.source "key") "clone" []]]
  let w := w.writeDoc s.unionDecoderDocs
  let w := w.openFunction true decodeSignature
  let w := w.writeStmt bindContainer
  let w := w.writeStmt (.bindMut "present" (.method (.method (.source "container") "iter" [])
    "filter" [.source "|(_, v)| !v.is_null()"]))
  let w := w.openBindPair "key" "variant" (.call "" [next, next])
  let w := w.writeArm (.value (.source "(Some(entry), None)") (.source "entry"))
  let w := w.writeArm (.value (.source "_") (.call "return Err" [invalid]))
  let w ← w.closeScope "\x7d;"
  let w := w.openMatch (.call s!"{s.codingKeysName}::from_wire" [.source "key"])
  let w ← s.members.foldlM (m.writeVariantDecoder s) w
  let w := w.writeArm (.value (.source "_") unknown)
  let w ← w.closeScope "\x7d"
  w.closeScope "\x7d"

/-- Writes the arm that encodes a variant. -/
def writeVariantEncoder (m : Model) (s : Shape) (w : Writer) (e : Member) :
    Except GenerationError Writer := do
  let t := CodecTrail.ofMember e.name
  let wire := t.ofRole "wire"
  let bound := t.ofRole "variant"
  let w := w.openArm (.variant s!"Self::{Naming.typeName e.name}" bound)
  let c ← m.writeEncode ⟨w, t⟩ e.target (.source bound) wire
  let w := c.writer.writeStmt (insertMember s e wire)
  w.closeScope "\x7d"

def writeUnionEncoder (m : Model) (s : Shape) (w : Writer) : Except GenerationError Writer := do
  let w := w.writeDoc s.unionEncoderDocs
  let w := w.openFunction true encodeSignature
  let w := w.writeStmt (.bindMut "container" Wire.emptyMap)
  let w := w.openMatch (.source "self")
  let w ← s.members.foldlM (m.writeVariantEncoder s) w
  let w := w.writeArm (.skip (.source "Self::Unknown(_)"))
  let w ← w.closeScope "\x7d"
  let w := w.writeStmt (.result (Wire.make "Object" (.source "container")))
  w.closeScope "\x7d"

def writeUnionCodec (m : Model) (s : Shape) (w : Writer) : Except GenerationError Writer := do
  let w := w.openImpl none s.generatedName
  let w ← m.writeUnionDecoder s w
  let w := w.writeBlank
  let w ← m.writeUnionEncoder s w
  let w ← w.closeScope "\x7d"
  .ok w.writeBlank

end Model

end ClientGen
