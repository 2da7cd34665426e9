import ClientGen.Crate.Types
import ClientGen.Proofs.Code.Occurrences
import ClientGen.Proofs.Codec.Nesting
import ClientGen.Proofs.Symbol.TypeNames

/-!
# Optional values in types and codecs

Whether a value may be absent is said three times: by an option in the declared type, by the code
that decodes it and by the code that encodes it. For a member all three go by its symbol, and for
what a collection holds by whether the collection is sparse. The temporaries of a collection are
numbered by the collections around it, so the code shows at which of them nulls are kept.
-/

namespace ClientGen

/-! ## Traces of sparse collections in code -/

/-- The buffer and the value, if the expression puts the value into a buffer. -/
def Expr.put? : Expr → Option (String × Expr)
  | .method (.source buffer) "push" [value] => some (buffer, value)
  | .method (.source buffer) "insert" [_, value] => some (buffer, value)
  | _ => none

namespace Stmt

/-- The value and the buffer, if the statement keeps a null value as an absent one in the buffer. -/
def keptNull? : Stmt → Option (String × String)
  | .ifHolds (.method (.source value) "is_null" []) [.run e, .next] =>
    match e.put? with
    | some (buffer, .source "None") => some (value, buffer)
    | _ => none
  | _ => none

/-- The buffer and the value, if the statement puts a value that is there into the buffer. -/
def somePut? : Stmt → Option (String × String)
  | .run e =>
    match e.put? with
    | some (buffer, .call "Some" [.source value]) => some (buffer, value)
    | _ => none
  | _ => none

/-- The item and the value in it, if the statement tells absent items from those that are there. -/
def itemMatch? : Stmt → Option (String × String)
  | .matchOn (.source item) [.value (.source "None") _, .block (.variant "Some" value) _] =>
    some (item, value)
  | .matchOn (.source item) [.block (.source "None") _, .block (.variant "Some" value) _] =>
    some (item, value)
  | _ => none

end Stmt

/-- The traces of a kind in some statements. -/
def tracesOf (f : Stmt → Option (String × String)) (stmts : List Stmt) : List (String × String) :=
  (nestedStmts stmts).filterMap f

namespace CodecPath

/-- The path of what some more collections hold. -/
def inside (p : CodecPath) (levels : Nat) : CodecPath := { p with depth := p.depth + levels }

theorem inside_deeper (p : CodecPath) (levels : Nat) :
    p.deeper.inside levels = p.inside (levels + 1) := by
  simp [inside, deeper, Nat.add_assoc, Nat.add_comm 1]

/-- Temporaries of one role have names of their own at each depth. -/
theorem temp_inside_inj {p : CodecPath} {role : String} {a b : Nat}
    (h : (p.inside a).temp role = (p.inside b).temp role) : a = b := by
  have htext : ∀ n, (p.inside n).temp role =
      p.stem ++ "_" ++ role ++ (p.depth + n).repr := fun _ => rfl
  rw [htext, htext, String.append_right_inj] at h
  have hdigits := congrArg String.toList h
  rw [Nat.toList_repr, Nat.toList_repr] at hdigits
  have hvalue := congrArg (fun digits => Nat.ofDigitChars 10 digits 0) hdigits
  simp only [Nat.ofDigitChars_ten_toDigits] at hvalue
  omega

end CodecPath

/-- The traces are those of the sparse ones among some collections, one inside the other, each with
its own temporaries of the two roles. -/
def TracesSparse (p : CodecPath) (first second : String) (collections : List Shape)
    (traces : List (String × String)) : Prop :=
  ∀ x, x ∈ traces ↔ ∃ i c, collections[i]? = some c ∧ c.traits.isSparse = true ∧
    x = ((p.inside i).temp first, (p.inside i).temp second)

namespace TracesSparse

variable {p : CodecPath} {s : Shape} {first second : String} {collections : List Shape}
  {traces inner : List (String × String)}

theorem nil : TracesSparse p first second [] [] := by
  simp [TracesSparse]

theorem cons (h : TracesSparse p.deeper first second collections inner)
    (hmem : ∀ x, x ∈ traces ↔
      (s.traits.isSparse = true ∧ x = (p.temp first, p.temp second)) ∨ x ∈ inner) :
    TracesSparse p first second (s :: collections) traces := by
  intro x
  rw [hmem, h]
  simp only [CodecPath.inside_deeper]
  constructor
  · rintro (⟨hsparse, rfl⟩ | ⟨i, c, hc, hsparse, rfl⟩)
    · exact ⟨0, s, rfl, hsparse, rfl⟩
    · exact ⟨i + 1, c, hc, hsparse, rfl⟩
  · rintro ⟨i, c, hc, hsparse, rfl⟩
    cases i with
    | zero =>
      obtain rfl := Option.some.inj hc
      exact .inl ⟨hsparse, rfl⟩
    | succ i => exact .inr ⟨i, c, hc, hsparse, rfl⟩

/-- A collection has its trace exactly if it is sparse. -/
theorem iff_sparse (h : TracesSparse p first second collections traces) (level : Nat) :
    ((p.inside level).temp first, (p.inside level).temp second) ∈ traces ↔
      ∃ c, collections[level]? = some c ∧ c.traits.isSparse = true := by
  rw [h]
  constructor
  · rintro ⟨i, c, hc, hsparse, heq⟩
    obtain rfl := CodecPath.temp_inside_inj (Prod.mk.inj heq).1
    exact ⟨c, hc, hsparse⟩
  · rintro ⟨c, hc, hsparse⟩
    exact ⟨level, c, hc, hsparse, rfl⟩

end TracesSparse

/-! ### Statements around what leaves traces -/

section

variable {f : Stmt → Option (String × String)}

theorem tracesOf_append (front back : List Stmt) :
    tracesOf f (front ++ back) = tracesOf f front ++ tracesOf f back := by
  rw [tracesOf, nestedStmts_append, List.filterMap_append]
  rfl

/-- The traces are not those of statements that bind, loop, return or fail. -/
structure IgnoresFrames (f : Stmt → Option (String × String)) : Prop where
  bind : ∀ x e, f (.bind x e) = none
  bindMut : ∀ x e, f (.bindMut x e) = none
  bindBlock : ∀ x body, f (.bindBlock x body) = none
  bindMatch : ∀ q subject arms, f (.bindMatch q subject arms) = none
  forIn : ∀ q items body, f (.forIn q items body) = none
  result : ∀ e, f (.result e) = none
  fail : ∀ error fields, f (.fail error fields) = none
  need : ∀ n, f (.need n) = none

theorem ignoresFrames_keptNull : IgnoresFrames Stmt.keptNull? := by
  constructor <;> intros <;> rfl

theorem ignoresFrames_somePut : IgnoresFrames Stmt.somePut? := by
  constructor <;> intros <;> rfl

theorem ignoresFrames_itemMatch : IgnoresFrames Stmt.itemMatch? := by
  constructor <;> intros <;> rfl

namespace IgnoresFrames

variable {body : List Stmt}

theorem cons_bind (hf : IgnoresFrames f) (x : String) (e : Expr) (stmts : List Stmt) :
    tracesOf f (.bind x e :: stmts) = tracesOf f stmts := by
  simp [tracesOf, nestedStmts, Stmt.nested, hf.bind]

theorem cons_bindMut (hf : IgnoresFrames f) (x : String) (e : Expr) (stmts : List Stmt) :
    tracesOf f (.bindMut x e :: stmts) = tracesOf f stmts := by
  simp [tracesOf, nestedStmts, Stmt.nested, hf.bindMut]

theorem cons_need (hf : IgnoresFrames f) (n : Need) (stmts : List Stmt) :
    tracesOf f (.need n :: stmts) = tracesOf f stmts := by
  simp [tracesOf, nestedStmts, Stmt.nested, hf.need]

theorem cons_forIn (hf : IgnoresFrames f) (q : Pattern) (items : Expr) (stmts : List Stmt) :
    tracesOf f (.forIn q items body :: stmts) = tracesOf f body ++ tracesOf f stmts := by
  simp [tracesOf, nestedStmts, Stmt.nested, hf.forIn]

theorem single_result (hf : IgnoresFrames f) (e : Expr) : tracesOf f [.result e] = [] := by
  simp [tracesOf, nestedStmts, Stmt.nested, hf.result]

theorem single_bindBlock (hf : IgnoresFrames f) (x : String) :
    tracesOf f [.bindBlock x body] = tracesOf f body := by
  simp [tracesOf, nestedStmts, Stmt.nested, hf.bindBlock]

theorem single_bindMatch (hf : IgnoresFrames f) (q q' : Pattern) (subject : Expr) {a : Arm}
    (ha : a.nested.filterMap f = []) :
    tracesOf f [.bindMatch q subject [a, .block q' body]] = tracesOf f body := by
  simp [tracesOf, nestedStmts, Stmt.nested, nestedArms, Arm.nested, hf.bindMatch, ha]

end IgnoresFrames

end

/-! ### Codecs of collections -/

section

variable {f : Stmt → Option (String × String)} {m : Model} {p : CodecPath}
  {visiting : List ShapeId} {id : ShapeId} {s : Shape} {e k v : Member} {source : Expr}
  {binding : String} {inner stmts : List Stmt}

/-- The traces of a decoder of a list are those of the statements for one element. -/
theorem IgnoresFrames.listDecode_eq (hf : IgnoresFrames f) :
    tracesOf f (listDecode p s e source binding inner) =
      tracesOf f (decodedElement p s.traits.isSparse (pushTo (p.temp "buffer")) inner) := by
  have hloop : ∀ array, tracesOf f (listDecodeLoop p s.traits.isSparse array inner) =
      tracesOf f (decodedElement p s.traits.isSparse (pushTo (p.temp "buffer")) inner) := by
    intro array
    rw [listDecodeLoop_eq, hf.cons_bind, hf.cons_bindMut, hf.cons_forIn, hf.single_result,
      List.append_nil]
  unfold listDecode
  split
  · rw [hf.single_bindMatch _ _ _ rfl, hloop]
  · rw [hf.single_bindBlock, hloop]

/-- The traces of a decoder of a map are those of the statements for one entry. -/
theorem IgnoresFrames.mapDecode_eq (hf : IgnoresFrames f) (conversion : Expr → Expr) :
    tracesOf f (mapDecode p s k v source binding conversion inner) =
      tracesOf f (decodedElement p s.traits.isSparse
        (fun e => .method (.source (p.temp "buffer")) "insert" [.source (p.temp "mapkey"), e])
        inner) := by
  rw [mapDecode, hf.cons_need, mapDecodeEntry_eq]
  split
  · rw [hf.single_bindMatch _ _ _ rfl, hf.cons_bind, hf.cons_bindMut, hf.cons_forIn,
      hf.single_result, List.append_nil, hf.cons_bind, hf.cons_bind, hf.cons_bind, hf.cons_bind]
  · rw [hf.single_bindBlock, hf.cons_bind, hf.cons_bindMut, hf.cons_forIn, hf.single_result,
      List.append_nil, hf.cons_bind]

/-- One element leaves a trace of either kind exactly if the collection is sparse, whichever way it
is put into the buffer. -/
theorem traces_decodedElement {put : Expr → Expr} (sparse : Bool)
    (hput : ∀ v, (put v).put? = some (p.temp "buffer", v)) (x : String × String) :
    (x ∈ tracesOf Stmt.keptNull? (decodedElement p sparse put inner) ↔
      (sparse = true ∧ x = (p.temp "value", p.temp "buffer")) ∨
        x ∈ tracesOf Stmt.keptNull? inner) ∧
    (x ∈ tracesOf Stmt.somePut? (decodedElement p sparse put inner) ↔
      (sparse = true ∧ x = (p.temp "buffer", p.temp "element")) ∨
        x ∈ tracesOf Stmt.somePut? inner) := by
  cases sparse <;>
    simp [decodedElement, tracesOf, nestedStmts, nestedStmts_append, Stmt.nested, skipNull, element,
      present, Stmt.keptNull?, Stmt.somePut?, hput, List.filterMap_cons, or_comm]

theorem traces_listDecode (x : String × String) :
    (x ∈ tracesOf Stmt.keptNull? (listDecode p s e source binding inner) ↔
      (s.traits.isSparse = true ∧ x = (p.temp "value", p.temp "buffer")) ∨
        x ∈ tracesOf Stmt.keptNull? inner) ∧
    (x ∈ tracesOf Stmt.somePut? (listDecode p s e source binding inner) ↔
      (s.traits.isSparse = true ∧ x = (p.temp "buffer", p.temp "element")) ∨
        x ∈ tracesOf Stmt.somePut? inner) := by
  rw [ignoresFrames_keptNull.listDecode_eq, ignoresFrames_somePut.listDecode_eq]
  exact traces_decodedElement s.traits.isSparse (fun _ => rfl) x

theorem traces_mapDecode (conversion : Expr → Expr) (x : String × String) :
    (x ∈ tracesOf Stmt.keptNull? (mapDecode p s k v source binding conversion inner) ↔
      (s.traits.isSparse = true ∧ x = (p.temp "value", p.temp "buffer")) ∨
        x ∈ tracesOf Stmt.keptNull? inner) ∧
    (x ∈ tracesOf Stmt.somePut? (mapDecode p s k v source binding conversion inner) ↔
      (s.traits.isSparse = true ∧ x = (p.temp "buffer", p.temp "element")) ∨
        x ∈ tracesOf Stmt.somePut? inner) := by
  rw [ignoresFrames_keptNull.mapDecode_eq, ignoresFrames_somePut.mapDecode_eq]
  exact traces_decodedElement s.traits.isSparse (fun _ => rfl) x

/-- Putting a value that is encoded into a buffer leaves no trace. -/
theorem traces_put (e : Expr) :
    tracesOf Stmt.itemMatch? (inner ++ [.run e]) = tracesOf Stmt.itemMatch? inner := by
  rw [tracesOf_append]
  exact List.append_nil _

/-- One item leaves a trace exactly if the collection is sparse, whatever stands for an absent one.
-/
theorem traces_encodedItem {absent : Arm} {body : List Stmt} (sparse : Bool)
    (hmatch : Stmt.itemMatch? (.matchOn (.source (p.temp "item"))
      [absent, .block (.some (p.temp "present")) body]) = some (p.temp "item", p.temp "present"))
    (habsent : absent.nested.filterMap Stmt.itemMatch? = []) (x : String × String) :
    x ∈ tracesOf Stmt.itemMatch? (encodedItem p sparse absent body) ↔
      (sparse = true ∧ x = (p.temp "item", p.temp "present")) ∨
        x ∈ tracesOf Stmt.itemMatch? body := by
  cases sparse with
  | false => simp [encodedItem]
  | true =>
    simp [encodedItem, tracesOf, nestedStmts, Stmt.nested, nestedArms, Arm.nested, hmatch, habsent]

/-- Putting what is encoded into a wrapper leaves no trace. -/
theorem traces_wrapper (wrapper : String) (key whole result : Expr) :
    tracesOf Stmt.itemMatch?
      [.bindMut wrapper Wire.emptyMap, insertInto wrapper key whole, .result result] = [] := rfl

theorem traces_listEncode (x : String × String) :
    x ∈ tracesOf Stmt.itemMatch? (listEncode p s e source binding inner) ↔
      (s.traits.isSparse = true ∧ x = (p.temp "item", p.temp "present")) ∨
        x ∈ tracesOf Stmt.itemMatch? inner := by
  have hf := ignoresFrames_itemMatch
  rw [listEncode_eq, hf.single_bindBlock, hf.cons_bindMut, hf.cons_forIn]
  split
  · rw [traces_wrapper, List.append_nil, traces_encodedItem _ rfl rfl, traces_put]
  · rw [hf.single_result, List.append_nil, traces_encodedItem _ rfl rfl, traces_put]

theorem traces_mapEncodeEntry (object : String) (key : Expr) (x : String × String) :
    x ∈ tracesOf Stmt.itemMatch? (mapEncodeEntry p s object key inner) ↔
      (s.traits.isSparse = true ∧ x = (p.temp "item", p.temp "present")) ∨
        x ∈ tracesOf Stmt.itemMatch? inner := by
  rw [mapEncodeEntry_eq, traces_encodedItem _ rfl rfl, insertInto, traces_put]

theorem traces_mapEncode (keyText : Expr) (x : String × String) :
    x ∈ tracesOf Stmt.itemMatch? (mapEncode p s k v source binding keyText inner) ↔
      (s.traits.isSparse = true ∧ x = (p.temp "item", p.temp "present")) ∨
        x ∈ tracesOf Stmt.itemMatch? inner := by
  have hf := ignoresFrames_itemMatch
  rw [mapEncode, hf.single_bindBlock]
  split
  · rw [hf.cons_bindMut, hf.cons_forIn, traces_wrapper, List.append_nil, traces_put,
      hf.cons_bindMut]
    exact traces_mapEncodeEntry ..
  · rw [hf.cons_bindMut, hf.cons_forIn, hf.single_result, List.append_nil]
    exact traces_mapEncodeEntry ..

/-- A decoder keeps nulls, and puts what is there as present, in the sparse collections. -/
theorem traces_decode {collections : List Shape} {leaf : Shape}
    (h : m.Nesting id collections leaf)
    (hdecode : m.decode p visiting id source binding = .ok stmts) :
    TracesSparse p "value" "buffer" collections (tracesOf Stmt.keptNull? stmts) ∧
      TracesSparse p "buffer" "element" collections (tracesOf Stmt.somePut? stmts) := by
  induction h generalizing p visiting source binding stmts with
  | leaf hs he =>
    rw [Model.decode_leaf hs he] at hdecode
    obtain rfl := Except.ok.inj hdecode
    exact ⟨.nil, .nil⟩
  | collection hs he _ ih =>
    obtain ⟨around, inner, haround, hinner, rfl⟩ := Model.decode_collection_ok hs he hdecode
    obtain ⟨hnulls, hputs⟩ := ih hinner
    rcases Model.collectionDecoder_cases he haround with ⟨-, rfl⟩ | ⟨k, conversion, -, -, rfl⟩
    · exact ⟨hnulls.cons fun x => (traces_listDecode x).1,
        hputs.cons fun x => (traces_listDecode x).2⟩
    · exact ⟨hnulls.cons fun x => (traces_mapDecode conversion x).1,
        hputs.cons fun x => (traces_mapDecode conversion x).2⟩

/-- An encoder tells absent items from those that are there in the sparse collections. -/
theorem traces_encode {collections : List Shape} {leaf : Shape}
    (h : m.Nesting id collections leaf)
    (hencode : m.encode p visiting id source binding = .ok stmts) :
    TracesSparse p "item" "present" collections (tracesOf Stmt.itemMatch? stmts) := by
  induction h generalizing p visiting source binding stmts with
  | leaf hs he =>
    rw [Model.encode_leaf hs he] at hencode
    obtain rfl := Except.ok.inj hencode
    exact .nil
  | collection hs he _ ih =>
    obtain ⟨around, inner, haround, hinner, rfl⟩ := Model.encode_collection_ok hs he hencode
    refine (ih hinner).cons fun x => ?_
    rcases Model.collectionEncoder_cases he haround with ⟨-, rfl⟩ | ⟨k, keyText, -, -, rfl⟩
    · exact traces_listEncode x
    · exact traces_mapEncode keyText x

end

/-! ## Types -/

namespace Model

variable {m : Model} {ns : String} {id : ShapeId} {s : Shape} {e : Member} {symbol : Symbol}
  {collections : List Shape} {leaf : Shape}

/-- The type at a level of some collections, one inside the other: that of the leaf, in those of the
collections from the level inwards. -/
def typeAt (m : Model) (ns : String) (collections : List Shape) (leaf : Shape) (level : Nat) :
    String :=
  (collections.drop level).foldr (fun c => c.typeAround (m.bareType ns)) leaf.leafType

/-- The type of the collection at a level has options of the type one level further in. -/
def HoldsOptions (m : Model) (ns : String) (collections : List Shape) (leaf : Shape)
    (level : Nat) : Prop :=
  ∃ c, collections[level]? = some c ∧
    let held := m.typeAt ns collections leaf (level + 1)
    m.typeAt ns collections leaf level = c.containerOf (m.bareType ns) s!"Option<{held}>"

theorem holdsOptions_iff {level : Nat} : m.HoldsOptions ns collections leaf level ↔
    ∃ c, collections[level]? = some c ∧ c.traits.isSparse = true := by
  refine exists_congr fun c => and_congr_right fun hc => ?_
  obtain ⟨hlevel, rfl⟩ := List.getElem?_eq_some_iff.1 hc
  have hstep : m.typeAt ns collections leaf level =
      collections[level].typeAround (m.bareType ns) (m.typeAt ns collections leaf (level + 1)) := by
    rw [typeAt, List.drop_eq_getElem_cons hlevel, List.foldr_cons, typeAt]
  dsimp only
  rw [hstep]
  exact Shape.typeAround_eq_option_iff _ _

/-- The type of a collection is one around the type of what it holds. -/
theorem name_of_element (hs : m.shape? id = some s) (he : s.element? = some e)
    (hsymbol : m.symbol ns id = .ok symbol) :
    ∃ held, m.symbol ns e.target = .ok held ∧
      symbol.name = s.typeAround (m.bareType ns) held.name := by
  unfold Shape.element? at he
  cases hkind : s.kind with
  | list x | set x =>
    rw [hkind] at he
    cases he
    exact name_of_list hs (by simp [hkind]) hsymbol
  | map k v =>
    rw [hkind] at he
    cases he
    exact name_of_map hs hkind hsymbol
  | _ =>
    rw [hkind] at he
    cases he

/-- The type of a shape is that of the innermost one in the types of the collections around it. -/
theorem name_of_nesting (h : m.Nesting id collections leaf)
    (hsymbol : m.symbol ns id = .ok symbol) :
    symbol.name = m.typeAt ns collections leaf 0 := by
  unfold typeAt
  rw [List.drop_zero]
  induction h generalizing symbol with
  | leaf hs he =>
    rw [symbol_shape hs] at hsymbol
    exact Shape.name_of_leaf (by rw [Shape.isCollection_eq, he]; rfl) hsymbol
  | collection hs he _ ih =>
    obtain ⟨held, hheld, hname⟩ := name_of_element hs he hsymbol
    rw [hname, ih hheld, List.foldr_cons]

/-- A type starts like a box only if the name of a shape does. -/
theorem isBoxed_eq_false (h : m.Nesting id collections leaf)
    (hsymbol : m.symbol ns id = .ok symbol) (hid : '<' ∉ id.name.toList) :
    symbol.isBoxed = false := by
  rw [Symbol.isBoxed, name_of_nesting h hsymbol]
  cases h with
  | leaf hs =>
    rw [← id_of_shape? hs] at hid
    exact Shape.leafType_not_box hid
  | collection => exact Shape.typeAround_not_box _ _

end Model

/-- The type is declared as an option of what it is without one. -/
def Symbol.IsOption (s : Symbol) : Prop := s.declaredType = s!"Option<{s.name}>"

theorem Symbol.isOption_iff (s : Symbol) : s.IsOption ↔ s.nullable = true := by
  unfold IsOption declaredType
  cases s.nullable with
  | true => exact iff_of_true rfl rfl
  | false => exact iff_of_false (fun h => option_ne s.name h.symm) (by simp)

/-! ## Members -/

theorem wrapMember_some (symbol : Symbol) (x : String) :
    symbol.nullable = true ↔ ∃ v, wrapMember symbol (.source x) = .call "Some" [v] := by
  unfold wrapMember
  cases symbol.nullable <;> cases symbol.isBoxed <;> simp [present]

theorem wrapMember_box (symbol : Symbol) (x : String) :
    symbol.isBoxed = true ↔ ∃ v, .call "Box::new" [v] ∈ (wrapMember symbol (.source x)).parts := by
  unfold wrapMember
  cases symbol.nullable <;> cases symbol.isBoxed <;>
    simp [present, Expr.parts, Expr.partsOfAll]

namespace Model

variable {m : Model} {s : Shape} {e : Member} {symbol : Symbol}

/-- A required member is not nullable, whatever its default and its target are. -/
theorem nullable_of_required {ns : String} {owner : ShapeId}
    (h : m.memberSymbol ns owner e = .ok symbol) (hrequired : e.required = true) :
    symbol.nullable = false := by
  obtain ⟨target, -, h⟩ := bind_eq_ok.1 h
  have hrefined : ∃ refined : Symbol, refined.nullable = false ∧
      (if m.needsBox owner e.name then refined.boxed else refined) = symbol := by
    obtain ⟨t, -, h⟩ := bind_eq_ok.1 h
    dsimp only at h
    split at h
    · exact ⟨target.withNullable false, rfl, Except.ok.inj h⟩
    split at h
    · obtain ⟨refined, hfallback, h⟩ := bind_eq_ok.1 h
      obtain ⟨expr, -, rfl⟩ := map_eq_ok.1 hfallback
      exact ⟨target.withFallback expr, rfl, Except.ok.inj h⟩
    · obtain ⟨refined, hrefined, h⟩ := bind_eq_ok.1 h
      obtain rfl := Except.ok.inj hrefined
      refine ⟨_, ?_, Except.ok.inj h⟩
      simp [Member.isOptional, hrequired]
  obtain ⟨refined, hnullable, rfl⟩ := hrefined
  split
  · exact hnullable
  · exact hnullable

def boxedIf (boxed : Bool) (type : String) : String := if boxed then s!"Box<{type}>" else type

/-- The type, the decoder and the encoder of a member agree on what may be absent. -/
structure AgreesOnOptions (m : Model) (s : Shape) (e : Member) (symbol : Symbol) (decoded : Stmt)
    (encoded : List Stmt) : Prop where
  /-- The declared type is an option exactly if the decoder wraps the value in one; and the value is
  boxed exactly if it has to be. -/
  wrapped : ∃ subject absent inner value,
    decoded = .bindMatch (.name ((CodecPath.ofMember e.name).ofRole "decoded")) subject
      [absent, .block (.some ((CodecPath.ofMember e.name).ofRole "wire"))
        (inner ++ [.result value])] ∧
    (symbol.IsOption ↔ ∃ v, value = .call "Some" [v]) ∧
    ('<' ∉ e.target.name.toList →
      (m.needsBox s.id e.name = true ↔ ∃ v, .call "Box::new" [v] ∈ value.parts))
  /-- The declared type is an option exactly if the encoder skips an absent value. -/
  guarded : symbol.IsOption ↔ ∃ x subject body, encoded = [.ifLet (.some x) subject body]
  required : e.required = true → ¬ symbol.IsOption
  /-- Level by level, a collection has options in its type exactly if the decoder keeps its nulls,
  exactly if the decoder puts what is there as present, and exactly if the encoder tells absent
  items from others. The type of a key is a plain name. -/
  levels : ∃ collections leaf, m.Nesting e.target collections leaf ∧
    symbol.name = boxedIf (m.needsBox s.id e.name) (m.typeAt modelNamespace collections leaf 0) ∧
    (∀ level,
      let p := (CodecPath.ofMember e.name).inside level
      let options := m.HoldsOptions modelNamespace collections leaf level
      (options ↔ (p.temp "value", p.temp "buffer") ∈ tracesOf Stmt.keptNull? [decoded]) ∧
      (options ↔ (p.temp "buffer", p.temp "element") ∈ tracesOf Stmt.somePut? [decoded]) ∧
      (options ↔ (p.temp "item", p.temp "present") ∈ tracesOf Stmt.itemMatch? encoded)) ∧
    ∀ c ∈ collections, ∀ k v, c.kind = .map k v → '<' ∉ k.target.name.toList →
      '<' ∉ (m.bareType modelNamespace k.target).toList

theorem isBoxed_eq_needsBox {collections : List Shape} {leaf : Shape}
    (h : m.Nesting e.target collections leaf)
    (hsymbol : m.memberSymbol modelNamespace s.id e = .ok symbol)
    (he : '<' ∉ e.target.name.toList) : symbol.isBoxed = m.needsBox s.id e.name := by
  obtain ⟨target, htarget, hname⟩ := memberSymbol_name hsymbol
  have hbare := isBoxed_eq_false h htarget he
  unfold Symbol.isBoxed at hbare ⊢
  rw [hname]
  split
  · rename_i hneeds
    rw [hneeds, List.isPrefixOf_iff_prefix]
    change "Box<".toList <+: ("Box<" ++ target.name ++ ">").toList
    rw [String.toList_append, String.toList_append, List.append_assoc]
    exact List.prefix_append _ _
  · rename_i hneeds
    rw [hbare, eq_comm, ← Bool.not_eq_true]
    exact hneeds

theorem keys_of_expands {collections : List Shape} {leaf : Shape}
    (h : m.Expands (·.isKey = true) [] e.target collections leaf) :
    ∀ c ∈ collections, ∀ k v, c.kind = .map k v → '<' ∉ k.target.name.toList →
      '<' ∉ (m.bareType modelNamespace k.target).toList := by
  intro c hc k v hkind hk
  obtain ⟨key, hkey, hwritten⟩ := h.keys c hc k v hkind
  unfold bareType
  cases hsymbol : m.symbol modelNamespace k.target with
  | error err => simp
  | ok symbol =>
    rw [symbol_shape hkey] at hsymbol
    dsimp only
    rw [Shape.name_of_leaf (Shape.isCollection_of_isKey hwritten) hsymbol]
    rw [← id_of_shape? hkey] at hk
    exact Shape.lt_not_mem_leafType hwritten hk

/-- Around the code for its value, the decoder of a member has no traces of its own. -/
theorem tracesOf_decodeMember {f : Stmt → Option (String × String)} (hf : IgnoresFrames f)
    (p q : Pattern) (subject value : Expr) (inner : List Stmt) :
    tracesOf f [.bindMatch p subject
      [absentArm s e symbol, .block q (inner ++ [.result value])]] = tracesOf f inner := by
  have habsent : (absentArm s e symbol).nested.filterMap f = [] := by
    unfold absentArm
    split <;> simp [Arm.nested, nestedStmts, Stmt.nested, hf.fail]
  rw [hf.single_bindMatch _ _ _ habsent, tracesOf_append, hf.single_result, List.append_nil]

/-- The encoder of a member skips an absent value exactly if its symbol is nullable, and has the
traces of the collections of the member. -/
theorem traces_encodeMember {collections : List Shape} {leaf : Shape} {encoded : List Stmt}
    (h : m.Nesting e.target collections leaf)
    (hsymbol : m.memberSymbol modelNamespace s.id e = .ok symbol)
    (hencode : m.encodeMember s e = .ok encoded) :
    (symbol.nullable = true ↔ ∃ x subject body, encoded = [.ifLet (.some x) subject body]) ∧
      TracesSparse (.ofMember e.name) "item" "present" collections
        (tracesOf Stmt.itemMatch? encoded) := by
  rw [encodeMember, ok_bind hsymbol] at hencode
  dsimp only at hencode
  split at hencode
  · rename_i hnullable
    obtain ⟨inner, hinner, hencode⟩ := bind_eq_ok.1 hencode
    obtain rfl := Except.ok.inj hencode
    refine ⟨iff_of_true hnullable ⟨_, _, _, rfl⟩, ?_⟩
    have hguard : ∀ x subject body, tracesOf Stmt.itemMatch? [.ifLet (.some x) subject body] =
        tracesOf Stmt.itemMatch? body := fun x subject body => by
      simp [tracesOf, nestedStmts, Stmt.nested, Stmt.itemMatch?, List.filterMap_cons]
    rw [hguard, insertMember, insertInto, traces_put]
    exact traces_encode h hinner
  · rename_i hnullable
    obtain ⟨inner, hinner, hencode⟩ := bind_eq_ok.1 hencode
    obtain rfl := Except.ok.inj hencode
    refine ⟨iff_of_false hnullable ?_, ?_⟩
    · -- The last statement puts the value into the object, which no check of a value does.
      rintro ⟨x, subject, body, heq⟩
      have hlast := congrArg List.getLast? heq
      rw [List.getLast?_concat] at hlast
      cases hlast
    · rw [insertMember, insertInto, traces_put]
      exact traces_encode h hinner

/-- Whenever the type, the decoder and the encoder of a member can be written, they agree. No
validation is needed: all three ask the same symbol. -/
theorem agreesOnOptions {decoded : Stmt} {encoded : List Stmt}
    (hsymbol : m.memberSymbol modelNamespace s.id e = .ok symbol)
    (hdecode : m.decodeMember s e = .ok decoded) (hencode : m.encodeMember s e = .ok encoded) :
    m.AgreesOnOptions s e symbol decoded encoded := by
  rw [decodeMember, ok_bind hsymbol] at hdecode
  obtain ⟨inner, hinner, hdecode⟩ := bind_eq_ok.1 hdecode
  obtain rfl := Except.ok.inj hdecode
  obtain ⟨collections, leaf, hexpands⟩ := decode_ok_iff.1 ⟨inner, hinner⟩
  have hnesting := hexpands.nesting
  obtain ⟨hnulls, hputs⟩ := traces_decode hnesting hinner
  obtain ⟨hguarded, hitems⟩ := traces_encodeMember hnesting hsymbol hencode
  obtain ⟨target, htarget, hname⟩ := memberSymbol_name hsymbol
  constructor
  · refine ⟨_, _, inner, _, rfl, symbol.isOption_iff.trans (wrapMember_some symbol _), fun he => ?_⟩
    rw [← isBoxed_eq_needsBox hnesting hsymbol he]
    exact wrapMember_box symbol _
  · exact symbol.isOption_iff.trans hguarded
  · intro hrequired
    rw [symbol.isOption_iff, nullable_of_required hsymbol hrequired]
    exact Bool.false_ne_true
  · refine ⟨collections, leaf, hnesting, ?_, fun level => ⟨?_, ?_, ?_⟩, keys_of_expands hexpands⟩
    · rw [hname, ← name_of_nesting hnesting htarget]
      rfl
    · rw [tracesOf_decodeMember ignoresFrames_keptNull]
      exact holdsOptions_iff.trans (hnulls.iff_sparse level).symm
    · rw [tracesOf_decodeMember ignoresFrames_somePut]
      exact holdsOptions_iff.trans (hputs.iff_sparse level).symm
    · exact holdsOptions_iff.trans (hitems.iff_sparse level).symm

/-! ## Structures -/

theorem mem_structureDecoder {body : List Stmt} (h : m.structureDecoder s = .ok body)
    (he : e ∈ s.members) : ∃ stmt ∈ body, m.decodeMember s e = .ok stmt := by
  unfold structureDecoder at h
  rw [if_neg (by simp [List.ne_nil_of_mem he])] at h
  obtain ⟨decoded, hdecoded, h⟩ := bind_eq_ok.1 h
  obtain rfl := Except.ok.inj h
  obtain ⟨stmt, hstmt, hmember⟩ := exists_of_mem_mapM hdecoded e he
  exact ⟨stmt, by simp [hstmt], hmember⟩

theorem infix_structureEncoder {body : List Stmt} (h : m.structureEncoder s = .ok body)
    (he : e ∈ s.members) : ∃ stmts, stmts <:+: body ∧ m.encodeMember s e = .ok stmts := by
  unfold structureEncoder at h
  rw [if_neg (by simp [List.ne_nil_of_mem he])] at h
  obtain ⟨encoded, hencoded, h⟩ := bind_eq_ok.1 h
  obtain rfl := Except.ok.inj h
  obtain ⟨stmts, hstmts, hmember⟩ := exists_of_mem_mapM hencoded e he
  refine ⟨stmts, ?_, hmember⟩
  obtain ⟨front, back, hflatten⟩ := List.infix_of_mem_flatten hstmts
  rw [← hflatten]
  exact ⟨.bindMut "container" Wire.emptyMap :: front,
    back ++ [Stmt.result (Wire.make "Object" (.source "container"))], by simp⟩

end Model

end ClientGen
