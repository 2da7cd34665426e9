import ClientGen.Proofs.Code.Occurrences
import ClientGen.Proofs.Codec.Nesting

/-!
# The keys on the wire

A wrapped collection has its parts under keys of its own. The decoder looks up the keys of one
collection around the code for what it holds, and the encoder inserts them; so level by level they
use the same ones. The members of a structure are looked up and inserted in the order of their
declaration, and the code for their values never touches the object of the structure.
-/

namespace ClientGen

/-- The use of an object under a key. -/
structure KeyAccess where
  function : String
  object : Expr
  key : Expr

namespace Expr

/-- The access, if the expression looks up a key of an object. -/
def read? : Expr → Option KeyAccess
  | .method object "get" [key] => some ⟨"get", object, key⟩
  | .call "wire::entry_field" [object, key] => some ⟨"wire::entry_field", object, key⟩
  | _ => none

/-- The access, if the expression puts a value under a key of an object. -/
def write? : Expr → Option KeyAccess
  | .method object "insert" [key, _] => some ⟨"insert", object, key⟩
  | _ => none

def isNamed (x : String) : Expr → Bool
  | .source t => t == x
  | _ => false

end Expr

open ClientGen.Expr (read? write?)

/-- What some statements look up. -/
abbrev readsOf (level : Nat) (stmts : List Stmt) : List (Nat × KeyAccess) :=
  occurrencesOfStmts read? level stmts

abbrev writesOf (level : Nat) (stmts : List Stmt) : List (Nat × KeyAccess) :=
  occurrencesOfStmts write? level stmts

/-- The keys under which a value is looked up in, or put into, the object with the name. -/
def keysOn (object : String) (found : List (Nat × KeyAccess)) : List Expr :=
  (found.filter (·.2.object.isNamed object)).map (·.2.key)

theorem keysOn_append (object : String) (front back : List (Nat × KeyAccess)) :
    keysOn object (front ++ back) = keysOn object front ++ keysOn object back := by
  rw [keysOn, List.filter_append, List.map_append, ← keysOn, ← keysOn]

theorem keysOn_flatMap {α : Type} (object : String) (f : α → List (Nat × KeyAccess)) (l : List α) :
    keysOn object (l.flatMap f) = l.flatMap fun a => keysOn object (f a) := by
  induction l with
  | nil => rfl
  | cons a l ih => rw [List.flatMap_cons, keysOn_append, ih, List.flatMap_cons]

namespace Shape

/-- The keys under which a collection has its parts on the wire. -/
def wireKeys (s : Shape) : List String :=
  if s.traits.isWrapped then
    match s.kind with
    | .list e | .set e => [e.wireName]
    | .map k v => [entryKey, k.wireName, v.wireName]
    | _ => []
  else []

end Shape

/-! ## Keys level by level -/

/-- What is found has the keys of some collections, one inside the other, each on a level of its
own, and is not in the object of a structure. -/
structure FollowsKeys (asKey : String → Expr) (level : Nat) (collections : List Shape)
    (found : List (Nat × KeyAccess)) : Prop where
  keys : ∀ n key, (∃ a, (n, a) ∈ found ∧ a.key = asKey key) ↔
    ∃ i s, n = level + i + 1 ∧ collections[i]? = some s ∧ key ∈ s.wireKeys
  outside : ∀ x ∈ found, x.2.object.isNamed "container" = false

namespace FollowsKeys

variable {asKey : String → Expr} {level : Nat} {s : Shape} {collections : List Shape}

theorem keysOn_container {found : List (Nat × KeyAccess)}
    (h : FollowsKeys asKey level collections found) : keysOn "container" found = [] := by
  rw [keysOn, List.filter_eq_nil_iff.2 fun x hx => by simp [h.outside x hx], List.map_nil]

theorem nil : FollowsKeys asKey level [] [] :=
  ⟨fun n key => by simp, by simp⟩

/-- Around what is found for the inner collections stand the keys of one more. -/
theorem cons {own : List KeyAccess} {found inner : List (Nat × KeyAccess)}
    (h : FollowsKeys asKey (level + 1) collections inner)
    (hmem : ∀ x, x ∈ found ↔ (∃ a ∈ own, x = (level + 1, a)) ∨ x ∈ inner)
    (hkeys : ∀ key, (∃ a ∈ own, a.key = asKey key) ↔ key ∈ s.wireKeys)
    (houtside : ∀ a ∈ own, a.object.isNamed "container" = false) :
    FollowsKeys asKey level (s :: collections) found := by
  constructor
  · intro n key
    constructor
    · rintro ⟨a, ha, hkey⟩
      rcases (hmem _).1 ha with ⟨a', ha', heq⟩ | ha
      · obtain ⟨rfl, rfl⟩ := Prod.mk.inj heq
        exact ⟨0, s, rfl, rfl, (hkeys key).1 ⟨a, ha', hkey⟩⟩
      · obtain ⟨i, t, rfl, ht, hmem⟩ := (h.keys n key).1 ⟨a, ha, hkey⟩
        exact ⟨i + 1, t, by omega, ht, hmem⟩
    · rintro ⟨i, t, rfl, ht, hkey⟩
      cases i with
      | zero =>
        obtain rfl := Option.some.inj ht
        obtain ⟨a, ha, hkey⟩ := (hkeys key).2 hkey
        exact ⟨a, (hmem _).2 (.inl ⟨a, ha, rfl⟩), hkey⟩
      | succ i =>
        obtain ⟨a, ha, hkey⟩ := (h.keys (level + (i + 1) + 1) key).2 ⟨i, t, by omega, ht, hkey⟩
        exact ⟨a, (hmem _).2 (.inr ha), hkey⟩
  · intro x hx
    rcases (hmem x).1 hx with ⟨a, ha, rfl⟩ | hx
    · exact houtside a ha
    · exact h.outside x hx

end FollowsKeys

/-! ## Decoders of collections -/

section

variable {m : Model} {p : CodecPath} {visiting : List ShapeId} {id : ShapeId} {s : Shape}
  {e k v : Member} {source : Expr} {binding : String} {inner stmts : List Stmt} {level : Nat}

theorem CodecPath.temp_ne_container (p : CodecPath) (role : String) :
    p.temp role ≠ "container" := by
  intro h
  have hmem : '_' ∈ (p.temp role).toList := by simp [temp, toString]
  rw [h] at hmem
  exact absurd hmem (by decide)

@[simp] theorem isNamed_temp (p : CodecPath) (role : String) :
    (Expr.source (p.temp role)).isNamed "container" = false :=
  beq_eq_false_iff_ne.2 (p.temp_ne_container role)

/-- What the decoder of a collection looks up itself. -/
def Shape.ownReads (s : Shape) (p : CodecPath) (source : Expr) : List KeyAccess :=
  if s.traits.isWrapped then
    let object := Wire.tryCall "expect_object" source
    let fields := Expr.source (p.temp "fields")
    match s.kind with
    | .list e | .set e => [⟨"get", object, .literal e.wireName⟩]
    | .map k v =>
      [⟨"get", object, .literal entryKey⟩, ⟨"wire::entry_field", fields, .literal k.wireName⟩,
        ⟨"get", fields, .literal v.wireName⟩]
    | _ => []
  else []

theorem Shape.ownReads_keys (key : String) :
    (∃ a ∈ s.ownReads p source, a.key = .literal key) ↔ key ∈ s.wireKeys := by
  unfold ownReads wireKeys
  cases s.traits.isWrapped with
  | false => simp
  | true => cases s.kind <;> simp [eq_comm]

theorem Shape.ownReads_outside (p : CodecPath) (source : Expr) :
    ∀ a ∈ s.ownReads p source, a.object.isNamed "container" = false := by
  unfold ownReads
  cases s.traits.isWrapped with
  | false => simp
  | true => cases s.kind <;> simp [Wire.tryCall, Expr.isNamed, p.temp_ne_container]

theorem lacks_source (t : String) : (Expr.source t).Lacks read? ∧ (Expr.source t).Lacks write? :=
  ⟨Expr.lacks_source rfl, Expr.lacks_source rfl⟩

/-- A function of one argument is no access. -/
theorem lacks_single {e : Expr} (h : e.Lacks read?) (g : String) :
    (Expr.call g [e]).Lacks read? :=
  Expr.lacks_call (by simp [read?]) (List.forall_mem_singleton.2 h)

theorem lacks_tryCall {e : Expr} (h : e.Lacks read?) (g : String) :
    (Wire.tryCall g e).Lacks read? :=
  Expr.lacks_propagate rfl (lacks_single h _)

theorem lacks_withCapacity {e : Expr} (h : e.Lacks read?) (type : String) :
    (withCapacity type e).Lacks read? :=
  lacks_single (Expr.lacks_method rfl h (List.forall_mem_nil _)) _

/-- The text of a key is converted without looking up another one. -/
theorem lacks_conversion {key : ShapeId} {conversion : Expr → Expr}
    (h : m.keyDecoder p key = .ok conversion) {e : Expr} (he : e.Lacks read?) :
    (conversion e).Lacks read? := by
  obtain ⟨s, -, h⟩ := bind_eq_ok.1 h
  split at h
  · obtain rfl := Except.ok.inj h
    exact Expr.lacks_method rfl he (List.forall_mem_nil _)
  · split at h
    · obtain rfl := Except.ok.inj h
      exact Expr.lacks_propagate rfl (lacks_single he _)
    · cases h
  · obtain rfl := Except.ok.inj h
    exact lacks_single he _
  · cases h

/-- Looking up a key of an object is one access. -/
theorem reads_get {object : Expr} (h : object.Lacks read?) (key : String) (n : Nat) :
    (object.method "get" [.literal key]).occurrences read? n =
      [(n, ⟨"get", object, .literal key⟩)] := by
  simp [Expr.occurrences, Expr.parts, Expr.partsOfAll, read?, List.filterMap_cons, h.filterMap]

/-- What the code for one element looks up, the code inside it looks up. -/
theorem reads_decodedElement {put : Expr → Expr} (sparse : Bool)
    (hput : ∀ e : Expr, e.Lacks read? → (put e).Lacks read?) :
    readsOf level (decodedElement p sparse put inner) = readsOf level inner := by
  have hnone := hput _ (lacks_source "None").1
  have helement : (element sparse (.source (p.temp "element"))).Lacks read? := by
    unfold element
    split
    · exact lacks_single (lacks_source _).1 _
    · exact (lacks_source _).1
  have hnull : (Expr.method (.source (p.temp "value")) "is_null" []).Lacks read? :=
    Expr.lacks_method rfl (lacks_source _).1 (List.forall_mem_nil _)
  cases sparse <;>
    simp [decodedElement, skipNull, occurrencesOfStmts, Stmt.occurrences,
      occurrencesOfStmts_append, hnull.occurrences, hnone.occurrences,
      (hput _ helement).occurrences]

theorem reads_listDecode (he : s.kind = .list e ∨ s.kind = .set e) (hsource : source.Lacks read?) :
    readsOf level (listDecode p s e source binding inner) =
      (s.ownReads p source).map (fun a => (level + 1, a)) ++ readsOf (level + 1) inner := by
  have hput : ∀ e : Expr, e.Lacks read? → (pushTo (p.temp "buffer") e).Lacks read? :=
    fun e he => Expr.lacks_method rfl (lacks_source _).1 (List.forall_mem_singleton.2 he)
  have hloop : ∀ array : Expr, array.Lacks read? →
      readsOf (level + 1) (listDecodeLoop p s.traits.isSparse array inner) =
        readsOf (level + 1) inner := fun array harray => by
    simp [listDecodeLoop_eq, occurrencesOfStmts, Stmt.occurrences, reads_decodedElement _ hput,
      (lacks_tryCall harray _).occurrences, (lacks_withCapacity (lacks_source _).1 _).occurrences,
      (lacks_source _).1.occurrences]
  have hown : s.ownReads p source = if s.traits.isWrapped then
      [⟨"get", Wire.tryCall "expect_object" source, .literal e.wireName⟩] else [] := by
    unfold Shape.ownReads
    rcases he with he | he <;> rw [he]
  have hempty : (Expr.call "Vec::new" []).Lacks read? :=
    Expr.lacks_call rfl (List.forall_mem_nil _)
  rw [hown, listDecode]
  split
  · simp [occurrencesOfStmts, Stmt.occurrences, occurrencesOfArms, Arm.occurrences,
      reads_get (lacks_tryCall hsource _), hempty.occurrences, hloop _ (lacks_source _).1]
  · simp [occurrencesOfStmts, Stmt.occurrences, hloop _ hsource]

/-- The decoder of a map looks up the keys of its wrapping, one level further in, and what the
decoder of its values looks up. -/
theorem reads_mapDecode (he : s.kind = .map k v) (hsource : source.Lacks read?)
    {conversion : Expr → Expr}
    (hconversion : ∀ e : Expr, e.Lacks read? → (conversion e).Lacks read?) :
    readsOf level (mapDecode p s k v source binding conversion inner) =
      (s.ownReads p source).map (fun a => (level + 1, a)) ++ readsOf (level + 1) inner := by
  have hentry : readsOf (level + 1) (mapDecodeEntry p s.traits.isSparse inner) =
      readsOf (level + 1) inner := by
    rw [mapDecodeEntry_eq]
    refine reads_decodedElement _ fun e he => Expr.lacks_method rfl (lacks_source _).1 ?_
    exact List.forall_mem_cons.2 ⟨(lacks_source _).1, List.forall_mem_singleton.2 he⟩
  have hname := hconversion (.source (p.temp "key")) (lacks_source _).1
  have htext := hconversion (.method (.source (p.temp "key")) "as_str" [])
    (Expr.lacks_method rfl (lacks_source _).1 (List.forall_mem_nil _))
  have hempty : (Expr.call "HashMap::new" []).Lacks read? :=
    Expr.lacks_call rfl (List.forall_mem_nil _)
  have hcapacity : ∀ x, (withCapacity "HashMap" (.source x)).Lacks read? :=
    fun x => lacks_withCapacity (lacks_source x).1 _
  unfold Shape.ownReads
  rw [he, mapDecode]
  split
  · let fields := Expr.source (p.temp "fields")
    have hitems := lacks_tryCall (lacks_source (p.temp "members")).1 "expect_array"
    have hfields := lacks_tryCall (lacks_source (p.temp "entry")).1 "expect_object"
    have hkey : (Wire.tryCall "decode_str" (Expr.call "wire::entry_field"
        [fields, .literal k.wireName]).propagate).occurrences read? (level + 1) =
          [(level + 1, ⟨"wire::entry_field", fields, .literal k.wireName⟩)] := by
      simp [Expr.occurrences, Wire.tryCall, Wire.call, Expr.parts, Expr.partsOfAll, read?, fields,
        List.filterMap_cons]
    have hvalue : ((fields.method "get" [.literal v.wireName]).method "unwrap_or"
        [(Expr.source "wire::NULL").borrow]).occurrences read? (level + 1) =
          [(level + 1, ⟨"get", fields, .literal v.wireName⟩)] := by
      simp [Expr.occurrences, Expr.parts, Expr.partsOfAll, read?, fields, List.filterMap_cons]
    simp [occurrencesOfStmts, Stmt.occurrences, occurrencesOfArms, Arm.occurrences,
      reads_get (lacks_tryCall hsource _), hempty.occurrences, hitems.occurrences,
      (hcapacity _).occurrences, hfields.occurrences, hkey, hname.occurrences, hvalue, hentry,
      (lacks_source _).1.occurrences, fields]
  · simp [occurrencesOfStmts, Stmt.occurrences, (lacks_tryCall hsource _).occurrences,
      (hcapacity _).occurrences, htext.occurrences, hentry, (lacks_source _).1.occurrences]

theorem lacks_leafDecoder (hsource : source.Lacks read?) : (s.leafDecoder source).Lacks read? := by
  unfold Shape.leafDecoder
  split
  · rename_i prim _
    cases prim with
    | document => exact Expr.lacks_method rfl hsource (List.forall_mem_nil _)
    | _ => exact lacks_tryCall hsource _
  · exact lacks_single (lacks_tryCall hsource _) _
  · exact Expr.lacks_propagate rfl (lacks_single hsource _)

theorem reads_collectionDecoder {around : List Stmt → List Stmt} (he : s.element? = some e)
    (h : m.collectionDecoder p s e source binding = .ok around) (hsource : source.Lacks read?) :
    readsOf level (around inner) =
      (s.ownReads p source).map (fun a => (level + 1, a)) ++ readsOf (level + 1) inner := by
  rcases Model.collectionDecoder_cases he h with ⟨hkind, rfl⟩ | ⟨k, conversion, hkind, hkey, rfl⟩
  · exact reads_listDecode hkind hsource
  · exact reads_mapDecode hkind hsource fun _ => lacks_conversion hkey

/-- A decoder looks up the keys of the collections that it expands. -/
theorem followsKeys_decode (level : Nat) {collections : List Shape} {leaf : Shape}
    (h : m.Nesting id collections leaf) (hsource : source.Lacks read?)
    (hdecode : m.decode p visiting id source binding = .ok stmts) :
    FollowsKeys .literal level collections (readsOf level stmts) := by
  induction h generalizing p visiting source binding stmts level with
  | leaf hs he =>
    rw [Model.decode_leaf hs he] at hdecode
    obtain rfl := Except.ok.inj hdecode
    rw [readsOf, occurrencesOfStmts, Stmt.occurrences, (lacks_leafDecoder hsource).occurrences]
    exact .nil
  | collection hs he _ ih =>
    obtain ⟨around, inner, haround, hinner, rfl⟩ := Model.decode_collection_ok hs he hdecode
    refine (ih (level + 1) (lacks_source _).1 hinner).cons (fun x => ?_) Shape.ownReads_keys
      (Shape.ownReads_outside p source)
    rw [reads_collectionDecoder he haround hsource, List.mem_append, List.mem_map]
    simp only [eq_comm]

/-! ## Encoders of collections -/

/-- What the encoder of a collection inserts itself. -/
def Shape.ownWrites (s : Shape) (p : CodecPath) (keyText : Expr) : List KeyAccess :=
  let wrapper := Expr.source (p.temp "wrapper")
  let entry := Expr.source (p.temp "entry")
  if s.traits.isWrapped then
    match s.kind with
    | .list e | .set e => [⟨"insert", wrapper, (Expr.literal e.wireName).toOwned⟩]
    | .map k v =>
      [⟨"insert", entry, (Expr.literal k.wireName).toOwned⟩,
        ⟨"insert", entry, (Expr.literal v.wireName).toOwned⟩,
        ⟨"insert", wrapper, (Expr.literal entryKey).toOwned⟩]
    | _ => []
  else
    match s.kind with
    | .map _ _ => [⟨"insert", .source (p.temp "object"), keyText⟩]
    | _ => []

theorem Shape.ownWrites_keys {keyText : Expr}
    (hkeyText : ∀ key, keyText ≠ (Expr.literal key).toOwned) (key : String) :
    (∃ a ∈ s.ownWrites p keyText, a.key = (Expr.literal key).toOwned) ↔
      key ∈ s.wireKeys := by
  have hliteral : ∀ a b, (Expr.literal a).toOwned = (Expr.literal b).toOwned ↔ a = b :=
    fun a b => by simp [Expr.toOwned]
  unfold ownWrites wireKeys
  cases s.traits.isWrapped with
  | false => cases s.kind <;> simp [hkeyText]
  | true =>
    cases s.kind <;> simp [hliteral, eq_comm]
    grind

theorem Shape.ownWrites_outside {keyText : Expr} :
    ∀ a ∈ s.ownWrites p keyText, a.object.isNamed "container" = false := by
  unfold ownWrites
  cases s.traits.isWrapped <;> cases s.kind <;> simp

/-- The text of a key of a map is no literal, and nothing is inserted for it. -/
theorem keyText_spec {key : ShapeId} {x : String} {keyText : Expr}
    (h : m.keyEncoder p key (.source x) = .ok keyText) :
    keyText.Lacks write? ∧ ∀ key, keyText ≠ (Expr.literal key).toOwned := by
  obtain ⟨s, -, h⟩ := bind_eq_ok.1 h
  unfold Expr.Lacks
  split at h <;> obtain rfl := Except.ok.inj h <;>
    simp [Expr.toOwned, Expr.parts, Expr.partsOfAll, write?]

theorem lacks_make {e : Expr} (h : e.Lacks write?) (variant : String) :
    (Wire.make variant e).Lacks write? :=
  Expr.lacks_call rfl (List.forall_mem_singleton.2 h)

theorem lacks_key (key : String) : (Expr.literal key).toOwned.Lacks write? :=
  Expr.lacks_method rfl (Expr.lacks_literal rfl) (List.forall_mem_nil _)

theorem lacks_emptyMap : Wire.emptyMap.Lacks write? :=
  Expr.lacks_call rfl (List.forall_mem_nil _)

theorem lacks_pushTo {e : Expr} (h : e.Lacks write?) (buffer : String) :
    (pushTo buffer e).Lacks write? :=
  Expr.lacks_method rfl (lacks_source _).2 (List.forall_mem_singleton.2 h)

/-- Neither the room for a collection nor the iteration over it inserts anything. -/
theorem lacks_iteration {e : Expr} (h : e.Lacks write?) (type : String) :
    (withCapacity type e).Lacks write? ∧ (e.method "iter" []).Lacks write? := by
  constructor
  · refine Expr.lacks_call rfl (List.forall_mem_singleton.2 ?_)
    exact Expr.lacks_method rfl h (List.forall_mem_nil _)
  · exact Expr.lacks_method rfl h (List.forall_mem_nil _)

/-- Putting a value under a key is one access. -/
theorem writes_insertInto {key value : Expr} (hkey : key.Lacks write?) (hvalue : value.Lacks write?)
    (object : String) (n : Nat) :
    (insertInto object key value).occurrences write? n =
      [(n, ⟨"insert", .source object, key⟩)] := by
  simp [insertInto, Stmt.occurrences, Expr.occurrences, Expr.parts, Expr.partsOfAll, write?,
    List.filterMap_cons, hkey.filterMap, hvalue.filterMap]

theorem mem_writes_encodedItem {absent : Arm} {body : List Stmt} (sparse : Bool)
    (x : Nat × KeyAccess) :
    x ∈ writesOf level (encodedItem p sparse absent body) ↔
      (sparse = true ∧ x ∈ absent.occurrences write? level) ∨ x ∈ writesOf level body := by
  have hitem : (Expr.source (p.temp "item")).occurrences write? level = [] :=
    (lacks_source _).2.occurrences level
  cases sparse <;>
    simp [encodedItem, occurrencesOfStmts, Stmt.occurrences, occurrencesOfArms, Arm.occurrences,
      hitem]

theorem mem_writes_listEncode (he : s.kind = .list e ∨ s.kind = .set e)
    (hsource : source.Lacks write?) (keyText : Expr) (x : Nat × KeyAccess) :
    x ∈ writesOf level (listEncode p s e source binding inner) ↔
      (∃ a ∈ s.ownWrites p keyText, x = (level + 1, a)) ∨ x ∈ writesOf (level + 1) inner := by
  have hown : s.ownWrites p keyText = if s.traits.isWrapped then
      [⟨"insert", .source (p.temp "wrapper"), (Expr.literal e.wireName).toOwned⟩] else [] := by
    unfold Shape.ownWrites
    rcases he with he | he <;> rw [he]
  obtain ⟨hcapacity, hitems⟩ := lacks_iteration (hsource.receiver rfl) "Vec"
  have hnull : (pushTo (p.temp "array") (Wire.value "Null")).Lacks write? :=
    lacks_pushTo (lacks_source _).2 _
  have helement : (pushTo (p.temp "array") (.source (p.temp "element"))).Lacks write? :=
    lacks_pushTo (lacks_source _).2 _
  have hwhole : ∀ variant x, (Wire.make variant (.source x)).Lacks write? :=
    fun variant x => lacks_make (lacks_source x).2 variant
  rw [hown, listEncode_eq]
  cases s.traits.isWrapped <;>
    simp [occurrencesOfStmts, Stmt.occurrences, occurrencesOfStmts_append, mem_writes_encodedItem,
      Arm.occurrences, hcapacity.occurrences, hitems.occurrences, hnull.occurrences,
      helement.occurrences, (hwhole _ _).occurrences, lacks_emptyMap.occurrences,
      writes_insertInto (lacks_key _) (hwhole _ _), or_comm]

/-- An entry of a map is put under its key, whether it is there or not. -/
theorem mem_writes_mapEncodeEntry {key : Expr} (hkey : key.Lacks write?) (object : String)
    (x : Nat × KeyAccess) :
    x ∈ writesOf level (mapEncodeEntry p s object key inner) ↔
      x = (level, ⟨"insert", .source object, key⟩) ∨ x ∈ writesOf level inner := by
  have hput : ∀ t, occurrencesOfStmts write? level [insertInto object key (.source t)] =
      [(level, ⟨"insert", .source object, key⟩)] := fun t => by
    rw [occurrencesOfStmts, writes_insertInto hkey (lacks_source t).2, occurrencesOfStmts,
      List.append_nil]
  rw [mapEncodeEntry_eq, mem_writes_encodedItem, Arm.occurrences, Wire.value, hput, writesOf,
    occurrencesOfStmts_append, hput, List.mem_append, List.mem_singleton]
  constructor
  · rintro (⟨-, hx⟩ | hx | hx)
    · exact .inl hx
    · exact .inr hx
    · exact .inl hx
  · rintro (hx | hx)
    · exact .inr (.inr hx)
    · exact .inr (.inl hx)

theorem mem_writes_mapEncode (he : s.kind = .map k v) (hsource : source.Lacks write?)
    {keyText : Expr} (hkeyText : keyText.Lacks write?) (x : Nat × KeyAccess) :
    x ∈ writesOf level (mapEncode p s k v source binding keyText inner) ↔
      (∃ a ∈ s.ownWrites p keyText, x = (level + 1, a)) ∨ x ∈ writesOf (level + 1) inner := by
  obtain ⟨hcapacity, hitems⟩ := lacks_iteration (hsource.receiver rfl) "Vec"
  have hwhole : ∀ variant x, (Wire.make variant (.source x)).Lacks write? :=
    fun variant x => lacks_make (lacks_source x).2 variant
  have hentry : (pushTo (p.temp "entries") (Wire.make "Object" (.source (p.temp "entry")))).Lacks
      write? := lacks_pushTo (hwhole _ _) _
  unfold Shape.ownWrites
  rw [he, mapEncode]
  cases s.traits.isWrapped with
  | false =>
    simp [occurrencesOfStmts, Stmt.occurrences, mem_writes_mapEncodeEntry hkeyText,
      hitems.occurrences, lacks_emptyMap.occurrences, (hwhole _ _).occurrences]
  | true =>
    simp [occurrencesOfStmts, Stmt.occurrences, occurrencesOfStmts_append,
      mem_writes_mapEncodeEntry (lacks_key _), hcapacity.occurrences, hitems.occurrences,
      hentry.occurrences, (hwhole _ _).occurrences, lacks_emptyMap.occurrences,
      writes_insertInto (lacks_key _) (lacks_make hkeyText _),
      writes_insertInto (lacks_key _) (hwhole _ _), or_comm, or_left_comm]

theorem lacks_leafEncoder (hsource : source.Lacks write?) :
    (s.leafEncoder source).Lacks write? := by
  have hreceiver := hsource.receiver rfl
  unfold Shape.leafEncoder
  split
  · rename_i prim _
    cases prim with
    | string => exact lacks_make (Expr.lacks_method rfl hreceiver (List.forall_mem_nil _)) "from"
    | blob | timestamp => exact Expr.lacks_call rfl (List.forall_mem_singleton.2 hsource)
    | document => exact Expr.lacks_method rfl hreceiver (List.forall_mem_nil _)
    | _ => exact lacks_make (Expr.lacks_deref rfl hsource) "from"
  · exact lacks_make (Expr.lacks_method rfl hreceiver (List.forall_mem_nil _)) "from"
  · exact Expr.lacks_method rfl hreceiver (List.forall_mem_nil _)

/-- What an encoder of a collection inserts itself, it inserts around the code for what the
collection holds. -/
theorem mem_writes_collectionEncoder {around : List Stmt → List Stmt} (he : s.element? = some e)
    (h : m.collectionEncoder p s e source binding = .ok around) (hsource : source.Lacks write?) :
    ∃ keyText, (∀ key, keyText ≠ (Expr.literal key).toOwned) ∧
      ∀ x, x ∈ writesOf level (around inner) ↔
        (∃ a ∈ s.ownWrites p keyText, x = (level + 1, a)) ∨ x ∈ writesOf (level + 1) inner := by
  rcases Model.collectionEncoder_cases he h with ⟨hkind, rfl⟩ | ⟨k, keyText, hkind, hkey, rfl⟩
  · exact ⟨.source "", by simp [Expr.toOwned], mem_writes_listEncode hkind hsource _⟩
  · obtain ⟨hlacks, hliteral⟩ := keyText_spec hkey
    exact ⟨keyText, hliteral, mem_writes_mapEncode hkind hsource hlacks⟩

/-- An encoder inserts the keys of the collections that it expands. -/
theorem followsKeys_encode (level : Nat) {collections : List Shape} {leaf : Shape}
    (h : m.Nesting id collections leaf) (hsource : source.Lacks write?)
    (hencode : m.encode p visiting id source binding = .ok stmts) :
    FollowsKeys (fun key => (Expr.literal key).toOwned) level collections
      (writesOf level stmts) := by
  induction h generalizing p visiting source binding stmts level with
  | leaf hs he =>
    rw [Model.encode_leaf hs he] at hencode
    obtain rfl := Except.ok.inj hencode
    rw [writesOf, occurrencesOfStmts, Stmt.occurrences, (lacks_leafEncoder hsource).occurrences]
    exact .nil
  | collection hs he _ ih =>
    obtain ⟨around, inner, haround, hinner, rfl⟩ := Model.encode_collection_ok hs he hencode
    obtain ⟨keyText, hkeyText, hmem⟩ := mem_writes_collectionEncoder he haround hsource
    exact (ih (level + 1) (lacks_source _).2 hinner).cons hmem (Shape.ownWrites_keys hkeyText)
      Shape.ownWrites_outside

end

/-! ## Structures -/

namespace Model

variable {m : Model} {s : Shape} {e : Member}

/-- The decoder of a member looks up its key in the object of the structure, and no other. -/
theorem keysOn_decodeMember {stmt : Stmt} (h : m.decodeMember s e = .ok stmt) :
    keysOn "container" (stmt.occurrences read? 0) = [s.keyExpr e] := by
  obtain ⟨symbol, -, h⟩ := bind_eq_ok.1 h
  obtain ⟨inner, hinner, h⟩ := bind_eq_ok.1 h
  obtain rfl := Except.ok.inj h
  obtain ⟨collections, leaf, hexpands⟩ := decode_ok_iff.1 ⟨inner, hinner⟩
  have hkeys := (followsKeys_decode 1 hexpands.nesting (lacks_source _).1
    hinner).keysOn_container
  have habsent : (absentArm s e symbol).occurrences read? 1 = [] := by
    unfold absentArm
    split <;> simp [Arm.occurrences, occurrencesOfStmts, Stmt.occurrences, Expr.occurrences,
      Expr.parts, read?]
  have hvalue : ∀ x, (wrapMember symbol (.source x)).occurrences read? 1 = [] := fun x => by
    unfold wrapMember
    cases symbol.isBoxed <;> cases symbol.nullable <;>
      simp [present, Expr.occurrences, Expr.parts, Expr.partsOfAll, read?]
  simp only [Stmt.occurrences, occurrencesOfArms, Arm.occurrences, occurrencesOfStmts_append,
    occurrencesOfStmts, keysOn_append, hkeys, habsent, hvalue]
  simp [keysOn, Expr.occurrences, Shape.keyExpr, Expr.parts, Expr.partsOfAll, read?, Expr.isNamed,
    List.filterMap_cons]

/-- The encoder of a member inserts under its key in the object of the structure, and no other. -/
theorem keysOn_encodeMember {stmts : List Stmt} (h : m.encodeMember s e = .ok stmts) :
    keysOn "container" (writesOf 0 stmts) = [(s.keyExpr e).toOwned] := by
  obtain ⟨symbol, -, h⟩ := bind_eq_ok.1 h
  have hinsert : ∀ wire, keysOn "container" (writesOf 0 [insertMember s e wire]) =
      [(s.keyExpr e).toOwned] := fun wire => by
    simp [keysOn, insertMember, insertInto, occurrencesOfStmts, Stmt.occurrences, Expr.occurrences,
      Shape.keyExpr, Expr.toOwned, Expr.parts, Expr.partsOfAll, write?, Expr.isNamed,
      List.filterMap_cons]
  have hplace : ((Expr.source "self").field (Naming.fieldName e.name)).borrow.Lacks write? := by
    simp [Expr.Lacks, Expr.parts, write?]
  have hkeys : ∀ {p id source binding inner}, source.Lacks write? →
      m.encode p [] id source binding = .ok inner →
      keysOn "container" (writesOf 0 inner) = [] := fun hsource hinner => by
    obtain ⟨collections, leaf, hexpands⟩ := encode_ok_iff.1 ⟨_, hinner⟩
    exact (followsKeys_encode 0 hexpands.nesting hsource hinner).keysOn_container
  dsimp only at h
  split at h
  · obtain ⟨inner, hinner, h⟩ := bind_eq_ok.1 h
    obtain rfl := Except.ok.inj h
    rw [writesOf, occurrencesOfStmts, Stmt.occurrences, hplace.occurrences, List.nil_append,
      occurrencesOfStmts, List.append_nil, occurrencesOfStmts_append, keysOn_append,
      hkeys (lacks_source _).2 hinner]
    exact hinsert _
  · obtain ⟨inner, hinner, h⟩ := bind_eq_ok.1 h
    obtain rfl := Except.ok.inj h
    rw [writesOf, occurrencesOfStmts_append, keysOn_append, hkeys hplace hinner]
    exact hinsert _

theorem keysOn_structureDecoder {body : List Stmt} (h : m.structureDecoder s = .ok body) :
    keysOn "container" (readsOf 0 body) = s.members.map s.keyExpr := by
  unfold structureDecoder at h
  split at h
  · rename_i hempty
    obtain rfl := Except.ok.inj h
    rw [List.isEmpty_iff.1 hempty]
    rfl
  · obtain ⟨decoded, hdecoded, h⟩ := bind_eq_ok.1 h
    obtain rfl := Except.ok.inj h
    have hmembers := flatMap_of_mapM
      (g := fun stmt => keysOn "container" (stmt.occurrences read? 0))
      (fun e stmt => keysOn_decodeMember) hdecoded
    rw [readsOf, occurrencesOfStmts_append, keysOn_append, occurrencesOfStmts, keysOn_append,
      occurrencesOfStmts_eq_flatMap, keysOn_flatMap, hmembers, ← List.map_eq_flatMap]
    simp [keysOn, bindContainer, Wire.tryCall, Wire.call, occurrencesOfStmts, Stmt.occurrences,
      Expr.occurrences, Expr.parts, Expr.partsOfAll, read?, List.filterMap_cons, List.flatMap_map]

theorem keysOn_structureEncoder {body : List Stmt} (h : m.structureEncoder s = .ok body) :
    keysOn "container" (writesOf 0 body) = s.members.map fun e => (s.keyExpr e).toOwned := by
  unfold structureEncoder at h
  split at h
  · rename_i hempty
    obtain rfl := Except.ok.inj h
    rw [List.isEmpty_iff.1 hempty]
    rfl
  · obtain ⟨encoded, hencoded, h⟩ := bind_eq_ok.1 h
    obtain rfl := Except.ok.inj h
    have hmembers := flatMap_of_mapM (g := fun stmts => keysOn "container" (writesOf 0 stmts))
      (fun e stmts => keysOn_encodeMember) hencoded
    rw [writesOf, occurrencesOfStmts_append, keysOn_append, occurrencesOfStmts, keysOn_append,
      occurrencesOfStmts_flatten, keysOn_flatMap, hmembers, ← List.map_eq_flatMap]
    simp [keysOn, Wire.emptyMap, Wire.make, occurrencesOfStmts, Stmt.occurrences, Expr.occurrences,
      Expr.parts, Expr.partsOfAll, write?, List.filterMap_cons]

/-! ## Both directions -/

/-- Where a value can be decoded and encoded, the decoder looks up and the encoder inserts, level by
level, the keys of the collection that is expanded there: none if it is not wrapped, the key of the
element of a wrapped list, and those of the entries, keys and values of a wrapped map. Where a
structure has a codec, the decoder looks up and the encoder inserts the keys of its members, in the
order of their declaration. -/
theorem wireKeys_agree (m : Model) :
    (∀ p id source source' binding binding' decoder encoder,
      source.Lacks read? → source'.Lacks write? →
      m.decode p [] id source binding = .ok decoder →
      m.encode p [] id source' binding' = .ok encoder →
      ∃ collections leaf, m.Nesting id collections leaf ∧ ∀ n key,
        ((∃ a, (n, a) ∈ readsOf 0 decoder ∧ a.key = .literal key) ↔
          ∃ i s, n = i + 1 ∧ collections[i]? = some s ∧ key ∈ s.wireKeys) ∧
        ((∃ a, (n, a) ∈ writesOf 0 encoder ∧ a.key = (Expr.literal key).toOwned) ↔
          ∃ i s, n = i + 1 ∧ collections[i]? = some s ∧ key ∈ s.wireKeys)) ∧
    ∀ s item, m.structureCodec s = .ok item → ∃ decoderDoc decoder encoderDoc encoder,
      item = .impl none s.generatedName [.function decoderDoc true decodeSignature decoder,
        .function encoderDoc true encodeSignature encoder] ∧
      keysOn "container" (readsOf 0 decoder) = s.members.map s.keyExpr ∧
      keysOn "container" (writesOf 0 encoder) = s.members.map fun e => (s.keyExpr e).toOwned := by
  constructor
  · intro p id source source' binding binding' decoder encoder hsource hsource' hdecode hencode
    obtain ⟨collections, leaf, hexpands⟩ := decode_ok_iff.1 ⟨decoder, hdecode⟩
    have hreads := followsKeys_decode 0 hexpands.nesting hsource hdecode
    have hwrites := followsKeys_encode 0 hexpands.nesting hsource' hencode
    refine ⟨collections, leaf, hexpands.nesting, fun n key => ⟨?_, ?_⟩⟩
    · simpa only [Nat.zero_add] using hreads.keys n key
    · simpa only [Nat.zero_add] using hwrites.keys n key
  · intro s item h
    obtain ⟨decoder, hdecoder, h⟩ := bind_eq_ok.1 h
    obtain ⟨encoder, hencoder, h⟩ := bind_eq_ok.1 h
    exact ⟨_, decoder, _, encoder, (Except.ok.inj h).symm, keysOn_structureDecoder hdecoder,
      keysOn_structureEncoder hencoder⟩

/-- The entries of a wrapped map of wrapped lists, and the elements of these. -/
theorem wireKeys_agree_rows :
    let text : Shape := .ofPrimitive .string
    let rows : Shape := ⟨⟨"store", "Rows"⟩, .list ⟨"member", text.id, false, [.jsonName "row"]⟩,
      [.wrapped]⟩
    let table : Shape := ⟨⟨"store", "Table"⟩,
      .map ⟨"key", text.id, false, []⟩ ⟨"value", rows.id, false, []⟩, [.wrapped, .sparse]⟩
    let m : Model := ⟨⟨[text, rows, table], by decide⟩, .empty, .empty⟩
    ∃ decoder encoder,
      m.decode (.ofMember "table") [] table.id (.source "wire") "table" = .ok decoder ∧
      m.encode (.ofMember "table") [] table.id (.source "&self.table") "wire" = .ok encoder ∧
      (∃ a, (1, a) ∈ readsOf 0 decoder ∧ a.key = .literal "entry") ∧
      ∃ a, (2, a) ∈ writesOf 0 encoder ∧ a.key = (Expr.literal "row").toOwned := by
  intro text rows table m
  have htext : m.shape? text.id = some text := by decide
  have hrows : m.shape? rows.id = some rows := by decide
  have htable : m.shape? table.id = some table := by decide
  have hexpands : ∀ P : Shape → Prop, P text → m.Expands P [] table.id [table, rows] text := by
    intro P hP
    have hinner : m.Expands P ([] ++ [table.id]) rows.id [rows] text :=
      .collection hrows rfl (by decide) (.of_not_map (by simp [rows])) (expands_leaf htext rfl)
    exact .collection htable rfl (by decide) ((keyIs_map rfl).2 ⟨text, htext, hP⟩) hinner
  obtain ⟨decoder, hdecode⟩ := decode_ok_iff.2 ⟨_, _, hexpands (·.isKey = true) rfl⟩
  obtain ⟨encoder, hencode⟩ := encode_ok_iff.2 ⟨_, _, hexpands (fun _ => True) trivial⟩
  obtain ⟨collections, leaf, hnesting, hkeys⟩ := (wireKeys_agree m).1 _ _ _ _ _ _ decoder encoder
    (lacks_source _).1 (lacks_source _).2 hdecode hencode
  obtain ⟨rfl, -⟩ := hnesting.unique (hexpands (fun _ => True) trivial).nesting
  exact ⟨decoder, encoder, hdecode, hencode,
    (hkeys 1 "entry").1.2 ⟨0, table, rfl, rfl, by decide⟩,
    (hkeys 2 "row").2.2 ⟨1, rows, rfl, rfl, by decide⟩⟩

end Model

end ClientGen
