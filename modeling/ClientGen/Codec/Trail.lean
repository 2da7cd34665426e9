import ClientGen.Code.Scope
import ClientGen.Codec.Decode
import ClientGen.Codec.Encode

/-!
# Codecs that are written call by call

A codec for a value is written into a module that is being written. Lines are written one by one,
each block is opened and closed by a call of its own, and around each nested value the trail of the
codec is moved one level down and up again.
-/

namespace ClientGen

/-- The path of a codec that is being written, and the collections that are being expanded. -/
structure CodecTrail extends CodecPath where
  visiting : List ShapeId
deriving DecidableEq

namespace CodecTrail

/-- The trail of a member, inside no collection. -/
def ofMember (name : String) : CodecTrail := ⟨.ofMember name, []⟩

def enter (t : CodecTrail) (id : ShapeId) : CodecTrail := { t with visiting := t.visiting ++ [id] }

/-- The trail out of the latest collection. -/
def leave (t : CodecTrail) : CodecTrail := { t with visiting := t.visiting.dropLast }

/-- The trail one level down. -/
def descend (t : CodecTrail) : CodecTrail := { t with depth := t.depth + 1 }

/-- The trail one level up. -/
def ascend (t : CodecTrail) : CodecTrail := { t with depth := t.depth - 1 }

/-- Leaving the collection that was entered leads back. -/
@[simp] theorem leave_enter (t : CodecTrail) (id : ShapeId) : (t.enter id).leave = t := by
  simp [enter, leave]

/-- The way down and up again leads back. -/
@[simp] theorem ascend_descend (t : CodecTrail) : t.descend.ascend = t := rfl

end CodecTrail

/-- A trail into a new collection leaves one shape less to see. -/
theorem Model.unseen_enter_lt {m : Model} {t : CodecTrail} {id : ShapeId} {s : Shape}
    (hs : m.shape? id = some s) (hnew : id ∉ t.visiting) :
    m.unseen (t.enter id).visiting < m.unseen t.visiting :=
  unseen_lt hs hnew (List.mem_append_right _ (List.mem_singleton_self id))
    fun _ h => List.mem_append_left _ h

/-- A codec that is being written: the module with what is written so far, and the trail. -/
structure CodecWriter where
  writer : Writer
  trail : CodecTrail

/-- What writes the codec of a nested value into a module. -/
abbrev InnerCodec := Writer → Except GenerationError CodecWriter

/-! ## Decoders -/

/-- Writes what passes over a null, after the statement for it in a sparse collection. -/
def writeSkipNull (value : String) (sparse : Bool) (whenNull : Stmt) (w : Writer) :
    Except GenerationError Writer := do
  let w := w.openIf (.method (.source value) "is_null" [])
  let w := if sparse then w.writeStmt whenNull else w
  let w := w.writeStmt .next
  w.closeScope "\x7d"

/-- Writes the loop over the elements of a list. -/
def writeListDecodeLoop (t : CodecTrail) (sparse : Bool) (array : Expr) (inner : InnerCodec)
    (w : Writer) : Except GenerationError CodecWriter := do
  let items := t.temp "items"
  let buffer := t.temp "buffer"
  let value := t.temp "value"
  let w := w.writeStmt (.bind items (Wire.tryCall "expect_array" array))
  let w := w.writeStmt (.bindMut buffer (withCapacity "Vec" (.source items)))
  let w := w.openFor (.name value) (.source items)
  let w ← writeSkipNull value sparse (.run (pushTo buffer (.source "None"))) w
  let c ← inner w
  let w := c.writer.writeStmt
    (.run (pushTo buffer (element sparse (.source (t.temp "element")))))
  let w ← w.closeScope "\x7d"
  let w := w.writeStmt (.result (.source buffer))
  .ok ⟨w, c.trail.ascend⟩

def writeListDecode (t : CodecTrail) (s : Shape) (e : Member) (source : Expr) (binding : String)
    (inner : InnerCodec) (w : Writer) : Except GenerationError CodecWriter := do
  if s.traits.isWrapped then
    let members := t.temp "members"
    let subject := (Wire.tryCall "expect_object" source).method "get" [.literal e.wireName]
    let w := w.openBindMatch binding subject
    let w := w.writeArm (.value .absent (.call "Vec::new" []))
    let w := w.openArm (.some members)
    let c ← writeListDecodeLoop t s.traits.isSparse (.source members) inner w
    let w ← c.writer.closeScope "\x7d"
    let w ← w.closeScope "\x7d;"
    .ok ⟨w, c.trail⟩
  else
    let w := w.openBlock binding
    let c ← writeListDecodeLoop t s.traits.isSparse source inner w
    let w ← c.writer.closeScope "\x7d;"
    .ok ⟨w, c.trail⟩

def writeMapDecodeEntry (t : CodecTrail) (sparse : Bool) (inner : InnerCodec) (w : Writer) :
    Except GenerationError CodecWriter := do
  let buffer := t.temp "buffer"
  let key := Expr.source (t.temp "mapkey")
  let w ← writeSkipNull (t.temp "value") sparse (insertInto buffer key (.source "None")) w
  let c ← inner w
  let w := c.writer.writeStmt
    (insertInto buffer key (element sparse (.source (t.temp "element"))))
  .ok ⟨w, c.trail.ascend⟩

namespace Model

def writeMapDecode (m : Model) (t : CodecTrail) (s : Shape) (k v : Member) (source : Expr)
    (binding : String) (inner : InnerCodec) (w : Writer) :
    Except GenerationError CodecWriter := do
  let buffer := t.temp "buffer"
  let rawKey := t.temp "key"
  let mapKey := t.temp "mapkey"
  let value := t.temp "value"
  let w := w.provide (.item "std::collections" "HashMap")
  if s.traits.isWrapped then
    let members := t.temp "members"
    let items := t.temp "items"
    let entry := t.temp "entry"
    let fields := t.temp "fields"
    let subject := (Wire.tryCall "expect_object" source).method "get" [.literal entryKey]
    let field := (Expr.call "wire::entry_field" [.source fields, .literal k.wireName]).propagate
    let found := ((Expr.source fields).method "get" [.literal v.wireName]).method "unwrap_or"
      [(Expr.source "wire::NULL").borrow]
    let w := w.openBindMatch binding subject
    let w := w.writeArm (.value .absent (.call "HashMap::new" []))
    let w := w.openArm (.some members)
    let w := w.writeStmt (.bind items (Wire.tryCall "expect_array" (.source members)))
    let w := w.writeStmt (.bindMut buffer (withCapacity "HashMap" (.source items)))
    let w := w.openFor (.name entry) (.source items)
    let w := w.writeStmt (.bind fields (Wire.tryCall "expect_object" (.source entry)))
    let w := w.writeStmt (.bind rawKey (Wire.tryCall "decode_str" field))
    let conversion ← m.keyDecoder t.toCodecPath k.target
    let w := w.writeStmt (.bind mapKey (conversion (.source rawKey)))
    let w := w.writeStmt (.bind value found)
    let c ← writeMapDecodeEntry t s.traits.isSparse inner w
    let w ← c.writer.closeScope "\x7d"
    let w := w.writeStmt (.result (.source buffer))
    let w ← w.closeScope "\x7d"
    let w ← w.closeScope "\x7d;"
    .ok ⟨w, c.trail⟩
  else
    let entries := t.temp "entries"
    let w := w.openBlock binding
    let w := w.writeStmt (.bind entries (Wire.tryCall "expect_object" source))
    let w := w.writeStmt (.bindMut buffer (withCapacity "HashMap" (.source entries)))
    let w := w.openFor (.pair rawKey value) (.source entries)
    let conversion ← m.keyDecoder t.toCodecPath k.target
    let w := w.writeStmt (.bind mapKey (conversion ((Expr.source rawKey).method "as_str" [])))
    let c ← writeMapDecodeEntry t s.traits.isSparse inner w
    let w ← c.writer.closeScope "\x7d"
    let w := w.writeStmt (.result (.source buffer))
    let w ← w.closeScope "\x7d;"
    .ok ⟨w, c.trail⟩

/-- Writes what binds the value of a shape, decoded from `source`. -/
def writeDecode (m : Model) (c : CodecWriter) (target : ShapeId) (source : Expr)
    (binding : String) : Except GenerationError CodecWriter :=
  let t := c.trail
  match _hs : m.shape? target with
  | none => .error (.unresolvedShape target t.referrer)
  | some s =>
    match s.kind with
    | .primitive prim =>
      .ok ⟨c.writer.writeStmt (.bind binding (prim.decodeExpr source)), t⟩
    | .enum _ =>
      let value := Expr.call s!"{Naming.typeName target.name}::from"
        [Wire.tryCall "decode_str" source]
      .ok ⟨c.writer.writeStmt (.bind binding value), t⟩
    | .structure _ | .union _ =>
      let value := (Expr.call s!"{Naming.typeName target.name}::decode" [source]).propagate
      .ok ⟨c.writer.writeStmt (.bind binding value), t⟩
    | .list e | .set e =>
      if _hnew : target ∈ t.visiting then
        .error (.invalidGraph .collectionCycle (t.visiting ++ [target]))
      else do
        let t := t.enter target
        let inner := fun w => m.writeDecode ⟨w, t.descend⟩ e.target (.source (t.temp "value"))
          (t.temp "element")
        let c ← writeListDecode t s e source binding inner c.writer
        .ok { c with trail := c.trail.leave }
    | .map k v =>
      if _hnew : target ∈ t.visiting then
        .error (.invalidGraph .collectionCycle (t.visiting ++ [target]))
      else do
        let t := t.enter target
        let inner := fun w => m.writeDecode ⟨w, t.descend⟩ v.target (.source (t.temp "value"))
          (t.temp "element")
        let c ← m.writeMapDecode t s k v source binding inner c.writer
        .ok { c with trail := c.trail.leave }
termination_by m.unseen c.trail.visiting
decreasing_by
  all_goals exact unseen_enter_lt _hs _hnew

end Model

/-! ## Encoders -/

/-- Writes what puts the encoded value of each element into an array. -/
def writeListEncodeElement (t : CodecTrail) (sparse : Bool) (inner : InnerCodec) (w : Writer) :
    Except GenerationError CodecWriter := do
  let array := t.temp "array"
  let push := Stmt.run (pushTo array (.source (t.temp "element")))
  if sparse then
    let w := w.openMatch (.source (t.temp "item"))
    let w := w.writeArm (.value (.source "None") (pushTo array (Wire.value "Null")))
    let w := w.openArm (.some (t.temp "present"))
    let c ← inner w
    let w := c.writer.writeStmt push
    let w ← w.closeScope "\x7d"
    let w ← w.closeScope "\x7d"
    .ok ⟨w, c.trail.ascend⟩
  else
    let c ← inner w
    .ok ⟨c.writer.writeStmt push, c.trail.ascend⟩

def writeListEncode (t : CodecTrail) (s : Shape) (e : Member) (source : Expr) (binding : String)
    (inner : InnerCodec) (w : Writer) : Except GenerationError CodecWriter := do
  let array := t.temp "array"
  let whole := Wire.make "Array" (.source array)
  let w := w.openBlock binding
  let w := w.writeStmt (.bindMut array (withCapacity "Vec" source.receiver))
  let w := w.openFor (.name (t.temp "item")) (source.receiver.method "iter" [])
  let c ← writeListEncodeElement t s.traits.isSparse inner w
  let w ← c.writer.closeScope "\x7d"
  let w := if s.traits.isWrapped then
      let wrapper := t.temp "wrapper"
      let w := w.writeStmt (.bindMut wrapper Wire.emptyMap)
      let w := w.writeStmt (insertInto wrapper (Expr.literal e.wireName).toOwned whole)
      w.writeStmt (.result (Wire.make "Object" (.source wrapper)))
    else w.writeStmt (.result whole)
  let w ← w.closeScope "\x7d;"
  .ok ⟨w, c.trail⟩

/-- Writes what puts the encoded value of an entry into an object. -/
def writeMapEncodeEntry (t : CodecTrail) (sparse : Bool) (object : String) (key : Expr)
    (inner : InnerCodec) (w : Writer) : Except GenerationError CodecWriter := do
  let insert := insertInto object key (.source (t.temp "element"))
  if sparse then
    let w := w.openMatch (.source (t.temp "item"))
    let w := w.openArm (.source "None")
    let w := w.writeStmt (insertInto object key (Wire.value "Null"))
    let w ← w.closeScope "\x7d"
    let w := w.openArm (.some (t.temp "present"))
    let c ← inner w
    let w := c.writer.writeStmt insert
    let w ← w.closeScope "\x7d"
    let w ← w.closeScope "\x7d"
    .ok ⟨w, c.trail.ascend⟩
  else
    let c ← inner w
    .ok ⟨c.writer.writeStmt insert, c.trail.ascend⟩

namespace Model

def writeMapEncode (m : Model) (t : CodecTrail) (s : Shape) (k v : Member) (source : Expr)
    (binding : String) (inner : InnerCodec) (w : Writer) :
    Except GenerationError CodecWriter := do
  let keyText ← m.keyEncoder t.toCodecPath k.target (.source (t.temp "key"))
  let items := source.receiver.method "iter" []
  let w := w.openBlock binding
  if s.traits.isWrapped then
    let entries := t.temp "entries"
    let entry := t.temp "entry"
    let wrapper := t.temp "wrapper"
    let whole := Wire.make "Array" (.source entries)
    let w := w.writeStmt (.bindMut entries (withCapacity "Vec" source.receiver))
    let w := w.openFor (.pair (t.temp "key") (t.temp "item")) items
    let w := w.writeStmt (.bindMut entry Wire.emptyMap)
    let w := w.writeStmt
      (insertInto entry (Expr.literal k.wireName).toOwned (Wire.make "from" keyText))
    let key := (Expr.literal v.wireName).toOwned
    let c ← writeMapEncodeEntry t s.traits.isSparse entry key inner w
    let w := c.writer.writeStmt (.run (pushTo entries (Wire.make "Object" (.source entry))))
    let w ← w.closeScope "\x7d"
    let w := w.writeStmt (.bindMut wrapper Wire.emptyMap)
    let w := w.writeStmt (insertInto wrapper (Expr.literal entryKey).toOwned whole)
    let w := w.writeStmt (.result (Wire.make "Object" (.source wrapper)))
    let w ← w.closeScope "\x7d;"
    .ok ⟨w, c.trail⟩
  else
    let object := t.temp "object"
    let w := w.writeStmt (.bindMut object Wire.emptyMap)
    let w := w.openFor (.pair (t.temp "key") (t.temp "item")) items
    let c ← writeMapEncodeEntry t s.traits.isSparse object keyText inner w
    let w ← c.writer.closeScope "\x7d"
    let w := w.writeStmt (.result (Wire.make "Object" (.source object)))
    let w ← w.closeScope "\x7d;"
    .ok ⟨w, c.trail⟩

/-- Writes what binds the wire value of `source`, a value of a shape. -/
def writeEncode (m : Model) (c : CodecWriter) (target : ShapeId) (source : Expr)
    (binding : String) : Except GenerationError CodecWriter :=
  let t := c.trail
  match _hs : m.shape? target with
  | none => .error (.unresolvedShape target t.referrer)
  | some s =>
    match s.kind with
    | .primitive prim =>
      .ok ⟨c.writer.writeStmt (.bind binding (prim.encodeExpr source)), t⟩
    | .enum _ =>
      let value := Wire.make "from" (source.receiver.method "as_str" [])
      .ok ⟨c.writer.writeStmt (.bind binding value), t⟩
    | .structure _ | .union _ =>
      .ok ⟨c.writer.writeStmt (.bind binding (source.receiver.method "encode" [])), t⟩
    | .list e | .set e =>
      if _hnew : target ∈ t.visiting then
        .error (.invalidGraph .collectionCycle (t.visiting ++ [target]))
      else do
        let t := t.enter target
        let inner := fun w => m.writeEncode ⟨w, t.descend⟩ e.target (encodeSource t.toCodecPath s)
          (t.temp "element")
        let c ← writeListEncode t s e source binding inner c.writer
        .ok { c with trail := c.trail.leave }
    | .map k v =>
      if _hnew : target ∈ t.visiting then
        .error (.invalidGraph .collectionCycle (t.visiting ++ [target]))
      else do
        let t := t.enter target
        let inner := fun w => m.writeEncode ⟨w, t.descend⟩ v.target (encodeSource t.toCodecPath s)
          (t.temp "element")
        let c ← m.writeMapEncode t s k v source binding inner c.writer
        .ok { c with trail := c.trail.leave }
termination_by m.unseen c.trail.visiting
decreasing_by
  all_goals exact unseen_enter_lt _hs _hnew

end Model

end ClientGen
