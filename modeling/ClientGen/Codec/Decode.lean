import ClientGen.Codec.Path

/-!
# Statements that decode a value from the wire

Collections are decoded in place, one loop inside the other; a collection inside itself is an error.
Null elements are kept as absent ones where the collection is sparse, and left out otherwise.
-/

namespace ClientGen

/-- The value of a scalar type from its wire value. -/
def Primitive.decodeExpr (p : Primitive) (source : Expr) : Expr :=
  match p with
  | boolean => Wire.tryCall "decode_bool" source
  | byte => Wire.tryCall "decode_integer::<i8>" source
  | short => Wire.tryCall "decode_integer::<i16>" source
  | integer => Wire.tryCall "decode_integer::<i32>" source
  | long => Wire.tryCall "decode_integer::<i64>" source
  | float => Wire.tryCall "decode_f32" source
  | double => Wire.tryCall "decode_f64" source
  | string => Wire.tryCall "decode_string" source
  | blob => Wire.tryCall "decode_blob" source
  | timestamp => Wire.tryCall "decode_timestamp" source
  | document => source.method "clone" []

/-- An element as it is put into a collection. -/
def element (sparse : Bool) (e : Expr) : Expr := if sparse then present e else e

/-- Passes over a null, after the statements for it. -/
def skipNull (value : String) (whenNull : List Stmt) : Stmt :=
  .ifHolds (.method (.source value) "is_null" []) (whenNull ++ [.next])

/-- The loop over the elements of a list; `inner` decodes one. -/
def listDecodeLoop (p : CodecPath) (sparse : Bool) (array : Expr) (inner : List Stmt) :
    List Stmt :=
  let items := p.temp "items"
  let buffer := p.temp "buffer"
  let value := p.temp "value"
  [.bind items (Wire.tryCall "expect_array" array),
    .bindMut buffer (withCapacity "Vec" (.source items)),
    .forIn (.name value) (.source items)
      (skipNull value (if sparse then [.run (pushTo buffer (.source "None"))] else [])
        :: inner ++ [.run (pushTo buffer (element sparse (.source (p.temp "element"))))]),
    .result (.source buffer)]

/-- Binds the decoded list. A wrapped one lies under the key of its element. -/
def listDecode (p : CodecPath) (s : Shape) (e : Member) (source : Expr) (binding : String)
    (inner : List Stmt) : List Stmt :=
  if s.traits.isWrapped then
    let members := p.temp "members"
    [.bindMatch (.name binding)
      (.method (Wire.tryCall "expect_object" source) "get" [.literal e.wireName])
      [.value .absent (.call "Vec::new" []),
        .block (.some members)
          (listDecodeLoop p s.traits.isSparse (.source members) inner)]]
  else [.bindBlock binding (listDecodeLoop p s.traits.isSparse source inner)]

/-- The statements for one entry of a map; `inner` decodes its value. -/
def mapDecodeEntry (p : CodecPath) (sparse : Bool) (inner : List Stmt) : List Stmt :=
  let buffer := p.temp "buffer"
  let key := Expr.source (p.temp "mapkey")
  skipNull (p.temp "value") (if sparse then [insertInto buffer key (.source "None")] else [])
    :: inner ++ [insertInto buffer key (element sparse (.source (p.temp "element")))]

/-- Binds the decoded map; `conversion` makes a key of its text. A wrapped map has its entries in a
list. -/
def mapDecode (p : CodecPath) (s : Shape) (k v : Member) (source : Expr) (binding : String)
    (conversion : Expr → Expr) (inner : List Stmt) : List Stmt :=
  let buffer := p.temp "buffer"
  let rawKey := p.temp "key"
  let mapKey := p.temp "mapkey"
  let value := p.temp "value"
  let entry := mapDecodeEntry p s.traits.isSparse inner
  .need (.item "std::collections" "HashMap") ::
    if s.traits.isWrapped then
      let members := p.temp "members"
      let items := p.temp "items"
      let fields := p.temp "fields"
      [.bindMatch (.name binding)
        (.method (Wire.tryCall "expect_object" source) "get" [.literal entryKey])
        [.value .absent (.call "HashMap::new" []),
          .block (.some members)
            [.bind items (Wire.tryCall "expect_array" (.source members)),
              .bindMut buffer (withCapacity "HashMap" (.source items)),
              .forIn (.name (p.temp "entry")) (.source items)
                (.bind fields (Wire.tryCall "expect_object" (.source (p.temp "entry")))
                  :: .bind rawKey (Wire.tryCall "decode_str"
                    (Expr.call "wire::entry_field" [.source fields, .literal k.wireName]).propagate)
                  :: .bind mapKey (conversion (.source rawKey))
                  :: .bind value (.method (.method (.source fields) "get" [.literal v.wireName])
                    "unwrap_or" [(Expr.source "wire::NULL").borrow])
                  :: entry),
              .result (.source buffer)]]]
    else
      let entries := p.temp "entries"
      [.bindBlock binding
        [.bind entries (Wire.tryCall "expect_object" source),
          .bindMut buffer (withCapacity "HashMap" (.source entries)),
          .forIn (.pair rawKey value) (.source entries)
            (.bind mapKey (conversion (.method (.source rawKey) "as_str" [])) :: entry),
          .result (.source buffer)]]

namespace Model

/-- How a key of a map is made of its text. -/
def keyDecoder (m : Model) (p : CodecPath) (key : ShapeId) :
    Except GenerationError (Expr → Expr) := do
  let s ← m.resolveShape key p.referrer
  match s.kind with
  | .primitive .string => .ok Expr.toOwned
  | .primitive prim => match prim.integerType? with
    | some type => .ok fun e => (Expr.call ("wire::parse_key::<" ++ type ++ ">") [e]).propagate
    | none => .error (.invalidGraph (.unsupportedKey key) [key])
  | .enum _ => .ok fun e => .call (s!"{Naming.typeName key.name}::from") [e]
  | _ => .error (.invalidGraph (.unsupportedKey key) [key])

/-- Binds the value of a shape, decoded from `source`; `visiting` are the collections around it. -/
def decode (m : Model) (p : CodecPath) (visiting : List ShapeId) (target : ShapeId) (source : Expr)
    (binding : String) : Except GenerationError (List Stmt) :=
  match _hs : m.shape? target with
  | none => .error (.unresolvedShape target p.referrer)
  | some s =>
    match s.kind with
    | .primitive prim => .ok [.bind binding (prim.decodeExpr source)]
    | .enum _ => .ok [.bind binding
        (.call s!"{Naming.typeName target.name}::from" [Wire.tryCall "decode_str" source])]
    | .structure _ | .union _ => .ok [.bind binding
        (Expr.call s!"{Naming.typeName target.name}::decode" [source]).propagate]
    | .list e | .set e =>
      if _hnew : target ∈ visiting then
        .error (.invalidGraph .collectionCycle (visiting ++ [target]))
      else do
        let inner ← m.decode p.deeper (visiting ++ [target]) e.target (.source (p.temp "value"))
          (p.temp "element")
        .ok (listDecode p s e source binding inner)
    | .map k v =>
      if _hnew : target ∈ visiting then
        .error (.invalidGraph .collectionCycle (visiting ++ [target]))
      else do
        let conversion ← m.keyDecoder p k.target
        let inner ← m.decode p.deeper (visiting ++ [target]) v.target (.source (p.temp "value"))
          (p.temp "element")
        .ok (mapDecode p s k v source binding conversion inner)
termination_by m.unseen visiting
decreasing_by
  all_goals exact unseen_lt _hs _hnew (by simp) fun _ h => by simp [h]

end Model

end ClientGen
