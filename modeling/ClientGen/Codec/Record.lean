import ClientGen.Codec.Decode
import ClientGen.Codec.Encode
import ClientGen.Codec.Keys

/-!
# The codecs of structures and unions

A structure is an object with a field for each member; a union is an object with exactly one field,
the key of its variant. A member that is absent has the absent value of its symbol, unless it is
required and has no default.
-/

namespace ClientGen

/-- The type of values on the wire, as a parameter. -/
def wireParam : String := "value: &serde_json::Value"

def decodeSignature : Signature := ⟨"decode", [wireParam], "Result<Self, DecodeError>", []⟩

def encodeSignature : Signature := ⟨"encode", ["&self"], "serde_json::Value", []⟩

/-- The object of a wire value. -/
def bindContainer : Stmt := .bind "container" (Wire.tryCall "expect_object" (.source "value"))

/-- The value of a member as its field holds it. -/
def wrapMember (symbol : Symbol) (e : Expr) : Expr :=
  let e := if symbol.isBoxed then .call "Box::new" [e] else e
  if symbol.nullable then present e else e

namespace Model

/-! ## Structures -/

def absentArm (s : Shape) (e : Member) (symbol : Symbol) : Arm :=
  if e.required && e.traits.default?.isNone then
    .block .absent [.fail "DecodeError::MissingRequiredMember"
      [("shape", .literal s.id.name), ("member", .literal e.wireName)]]
  else .value .absent (.source symbol.absentValue)

/-- Binds the decoded member of a structure. -/
def decodeMember (m : Model) (s : Shape) (e : Member) : Except GenerationError Stmt := do
  let symbol ← m.memberSymbol modelNamespace s.id e
  let p := CodecPath.ofMember e.name
  let inner ← m.decode p [] e.target (.source (p.ofRole "wire")) (p.ofRole "member")
  pure (.bindMatch (.name (p.ofRole "decoded"))
    (.method (.source "container") "get" [s.keyExpr e])
    [absentArm s e symbol,
      .block (.some (p.ofRole "wire"))
        (inner ++ [.result (wrapMember symbol (.source (p.ofRole "member")))])])

def structureDecoder (m : Model) (s : Shape) : Except GenerationError (List Stmt) :=
  if s.members.isEmpty then
    .ok [.run (Wire.tryCall "expect_object" (.source "value")),
      .result (.source "Ok(Self \x7b\x7d)")]
  else do
    let decoded ← s.members.mapM (m.decodeMember s)
    let fields := s.members.map fun e =>
      (Naming.fieldName e.name, some (Expr.source ((CodecPath.ofMember e.name).ofRole "decoded")))
    pure (bindContainer :: decoded ++ [.construct true fields])

/-- Puts a wire value under the key of a member. -/
def insertMember (s : Shape) (e : Member) (wire : String) : Stmt :=
  insertInto "container" (s.keyExpr e).toOwned (.source wire)

def encodeMember (m : Model) (s : Shape) (e : Member) : Except GenerationError (List Stmt) := do
  let symbol ← m.memberSymbol modelNamespace s.id e
  let p := CodecPath.ofMember e.name
  let wire := p.ofRole "wire"
  let place := ((Expr.source "self").field (Naming.fieldName e.name)).borrow
  if symbol.nullable then do
    let inner ← m.encode p [] e.target (.source (p.ofRole "present")) wire
    pure [.ifLet (.some (p.ofRole "present")) place (inner ++ [insertMember s e wire])]
  else do
    let inner ← m.encode p [] e.target place wire
    pure (inner ++ [insertMember s e wire])

def structureEncoder (m : Model) (s : Shape) : Except GenerationError (List Stmt) :=
  if s.members.isEmpty then .ok [.result (Wire.make "Object" Wire.emptyMap)]
  else do
    let encoded ← s.members.mapM (m.encodeMember s)
    pure (.bindMut "container" Wire.emptyMap :: encoded.flatten
      ++ [.result (Wire.make "Object" (.source "container"))])

def structureCodec (m : Model) (s : Shape) : Except GenerationError Item := do
  let decoder ← m.structureDecoder s
  let encoder ← m.structureEncoder s
  pure (.impl none s.generatedName
    [.function (some (s!"Decodes a `{s.generatedName}` from its keyed wire container.\n\n"
        ++ "## Errors\n\nFails when the value has the wrong type or a required member is missing."))
      true decodeSignature decoder,
    .function (some s!"Encodes this `{s.generatedName}` as a keyed wire container.")
      true encodeSignature encoder])

/-! ## Unions -/

def decodeVariant (m : Model) (s : Shape) (e : Member) : Except GenerationError Arm := do
  let symbol ← m.memberSymbol modelNamespace s.id e
  let p := CodecPath.ofMember e.name
  let value := p.ofRole "member"
  let inner ← m.decode p [] e.target (.source "variant") value
  let held := if symbol.isBoxed then Expr.call "Box::new" [.source value] else .source value
  pure (.block (.source s!"Some({s.codingKeyPath e})")
    (inner ++ [.result (.call "Ok" [.call s!"Self::{Naming.typeName e.name}" [held]])]))

def unionDecoder (m : Model) (s : Shape) : Except GenerationError (List Stmt) := do
  let arms ← s.members.mapM (m.decodeVariant s)
  let next := Expr.method (.source "present") "next" []
  let invalid := Expr.record "DecodeError::InvalidUnion" [("shape", .literal s.id.name)]
  pure
    [bindContainer,
      .bindMut "present" (.method (.method (.source "container") "iter" []) "filter"
        [.source "|(_, v)| !v.is_null()"]),
      .bindMatch (.pair "key" "variant") (.call "" [next, next])
        [.value (.source "(Some(entry), None)") (.source "entry"),
          .value (.source "_") (.call "return Err" [invalid])],
      .matchOn (.call s!"{s.codingKeysName}::from_wire" [.source "key"])
        (arms ++ [.value (.source "_")
          (.call "Ok" [.call "Self::Unknown" [.method (.source "key") "clone" []]])])]

def encodeVariant (m : Model) (s : Shape) (e : Member) : Except GenerationError Arm := do
  let p := CodecPath.ofMember e.name
  let wire := p.ofRole "wire"
  let inner ← m.encode p [] e.target (.source (p.ofRole "variant")) wire
  pure (.block (.variant s!"Self::{Naming.typeName e.name}" (p.ofRole "variant"))
    (inner ++ [insertMember s e wire]))

def unionEncoder (m : Model) (s : Shape) : Except GenerationError (List Stmt) := do
  let arms ← s.members.mapM (m.encodeVariant s)
  pure
    [.bindMut "container" Wire.emptyMap,
      .matchOn (.source "self") (arms ++ [.skip (.source "Self::Unknown(_)")]),
      .result (Wire.make "Object" (.source "container"))]

def unionCodec (m : Model) (s : Shape) : Except GenerationError Item := do
  let decoder ← m.unionDecoder s
  let encoder ← m.unionEncoder s
  pure (.impl none s.generatedName
    [.function (some (s!"Decodes a `{s.generatedName}` from a container holding exactly one "
        ++ "variant.\n\nKeys this client does not know decode to `Unknown`."))
      true decodeSignature decoder,
    .function (some (s!"Encodes this `{s.generatedName}` as a single-key container. "
        ++ "`Unknown` encodes as an empty object."))
      true encodeSignature encoder])

end Model

end ClientGen
