import ClientGen.Codec.Path

/-!
# Statements that encode a value for the wire

Collections are encoded in place. Absent elements of a sparse collection become nulls.
-/

namespace ClientGen

/-- The wire value of a value of a scalar type. -/
def Primitive.encodeExpr (p : Primitive) (source : Expr) : Expr :=
  match p with
  | boolean | byte | short | integer | long | float | double => Wire.make "from" source.deref
  | string => Wire.make "from" (source.receiver.method "as_str" [])
  | blob => Wire.call "encode_blob" source
  | timestamp => Wire.call "encode_timestamp" source
  | document => source.receiver.method "clone" []

/-- What an element is encoded from: in a sparse collection, the value inside the item. -/
def encodeSource (p : CodecPath) (s : Shape) : Expr :=
  .source (p.temp (if s.traits.isSparse then "present" else "item"))

/-- Binds the encoded list; `inner` encodes an element. -/
def listEncode (p : CodecPath) (s : Shape) (e : Member) (source : Expr) (binding : String)
    (inner : List Stmt) : List Stmt :=
  let array := p.temp "array"
  let item := p.temp "item"
  let push := inner ++ [.run (pushTo array (.source (p.temp "element")))]
  let whole := Wire.make "Array" (.source array)
  [.bindBlock binding (
    [.bindMut array (withCapacity "Vec" source.receiver),
      .forIn (.name item) (source.receiver.method "iter" [])
        (if s.traits.isSparse then
          [.matchOn (.source item)
            [.value (.source "None") (pushTo array (Wire.value "Null")),
              .block (.some (p.temp "present")) push]]
        else push)]
    ++ if s.traits.isWrapped then
        let wrapper := p.temp "wrapper"
        [.bindMut wrapper Wire.emptyMap,
          insertInto wrapper (Expr.literal e.wireName).toOwned whole,
          .result (Wire.make "Object" (.source wrapper))]
      else [.result whole])]

/-- Puts the encoded value of an entry into an object; `inner` encodes it. -/
def mapEncodeEntry (p : CodecPath) (s : Shape) (object : String) (key : Expr)
    (inner : List Stmt) : List Stmt :=
  let insert := inner ++ [insertInto object key (.source (p.temp "element"))]
  if s.traits.isSparse then
    [.matchOn (.source (p.temp "item"))
      [.block (.source "None") [insertInto object key (Wire.value "Null")],
        .block (.some (p.temp "present")) insert]]
  else insert

/-- Binds the encoded map; `keyText` is the text of a key, and `inner` encodes a value. -/
def mapEncode (p : CodecPath) (s : Shape) (k v : Member) (source : Expr) (binding : String)
    (keyText : Expr) (inner : List Stmt) : List Stmt :=
  let each (body : List Stmt) : Stmt :=
    .forIn (.pair (p.temp "key") (p.temp "item")) (source.receiver.method "iter" []) body
  [.bindBlock binding (
    if s.traits.isWrapped then
      let entries := p.temp "entries"
      let entry := p.temp "entry"
      let wrapper := p.temp "wrapper"
      [.bindMut entries (withCapacity "Vec" source.receiver),
        each (.bindMut entry Wire.emptyMap
          :: insertInto entry (Expr.literal k.wireName).toOwned (Wire.make "from" keyText)
          :: mapEncodeEntry p s entry (Expr.literal v.wireName).toOwned inner
          ++ [.run (pushTo entries (Wire.make "Object" (.source entry)))]),
        .bindMut wrapper Wire.emptyMap,
        insertInto wrapper (Expr.literal entryKey).toOwned (Wire.make "Array" (.source entries)),
        .result (Wire.make "Object" (.source wrapper))]
    else
      let object := p.temp "object"
      [.bindMut object Wire.emptyMap,
        each (mapEncodeEntry p s object keyText inner),
        .result (Wire.make "Object" (.source object))])]

namespace Model

/-- The text of a key of a map. -/
def keyEncoder (m : Model) (p : CodecPath) (key : ShapeId) (item : Expr) :
    Except GenerationError Expr := do
  let s ← m.resolveShape key p.referrer
  match s.kind with
  | .primitive .string => .ok (item.method "clone" [])
  | .enum _ => .ok (item.method "as_str" []).toOwned
  | _ => .ok item.toOwned

/-- Binds the wire value of `source`, a value of a shape; `visiting` are the collections around it.
-/
def encode (m : Model) (p : CodecPath) (visiting : List ShapeId) (target : ShapeId) (source : Expr)
    (binding : String) : Except GenerationError (List Stmt) :=
  match _hs : m.shape? target with
  | none => .error (.unresolvedShape target p.referrer)
  | some s =>
    match s.kind with
    | .primitive prim => .ok [.bind binding (prim.encodeExpr source)]
    | .enum _ =>
      .ok [.bind binding (Wire.make "from" (source.receiver.method "as_str" []))]
    | .structure _ | .union _ => .ok [.bind binding (source.receiver.method "encode" [])]
    | .list e | .set e =>
      if _hnew : target ∈ visiting then
        .error (.invalidGraph .collectionCycle (visiting ++ [target]))
      else do
        let inner ← m.encode p.deeper (visiting ++ [target]) e.target (encodeSource p s)
          (p.temp "element")
        .ok (listEncode p s e source binding inner)
    | .map k v =>
      if _hnew : target ∈ visiting then
        .error (.invalidGraph .collectionCycle (visiting ++ [target]))
      else do
        let keyText ← m.keyEncoder p k.target (.source (p.temp "key"))
        let inner ← m.encode p.deeper (visiting ++ [target]) v.target (encodeSource p s)
          (p.temp "element")
        .ok (mapEncode p s k v source binding keyText inner)
termination_by m.unseen visiting
decreasing_by
  all_goals exact unseen_lt _hs _hnew (by simp) fun _ h => by simp [h]

end Model

end ClientGen
