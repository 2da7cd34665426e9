import ClientGen.Proofs.Code.Following
import ClientGen.Proofs.Codec.Locals

/-!
# Following a value through its encoder

The code for a value reads the value and the temporaries of its collections, and binds one local to
the encoded value. Nothing in it sets a part of a request, so what is followed through it goes to
that local or past it.
-/

namespace ClientGen

/-! ## Names -/

/-- The name ends as those of the locals of labels and of the texts of lists do. -/
def IsHandle (x : String) : Prop :=
  x.toList.reverse.take 2 = ['l', 'e'] ∨ x.toList.reverse.take 2 = ['s', 'e']

instance (x : String) : Decidable (IsHandle x) :=
  inferInstanceAs (Decidable (_ ∨ _))

theorem isHandle_ofRole {stem role : String} (h : 2 ≤ role.toList.length) :
    IsHandle s!"{stem}_{role}" ↔ IsHandle role := by
  have hends : (s!"{stem}_{role}").toList.reverse.take 2 = role.toList.reverse.take 2 := by
    simp [toString, List.take_append_of_le_length, h]
  rw [IsHandle, hends, IsHandle]

theorem head?_reverse_temp (p : CodecPath) (role : String) :
    ∃ c, (p.temp role).toList.reverse.head? = some c ∧ c.isDigit = true := by
  have hlist : (p.temp role).toList.reverse =
      (toString p.depth).toList.reverse ++ (p.stem ++ "_" ++ role).toList.reverse := by
    simp [CodecPath.temp, toString]
  have hempty : (toString p.depth).toList.reverse ≠ [] := by
    rw [Nat.toString_eq_ofList_toDigits, String.toList_ofList, ne_eq, List.reverse_eq_nil_iff]
    exact List.ne_nil_of_length_pos Nat.length_toDigits_pos
  obtain ⟨c, digits, hdigits⟩ := List.exists_cons_of_ne_nil hempty
  have hc : c ∈ (toString p.depth).toList := List.mem_reverse.1 (hdigits ▸ List.mem_cons_self)
  refine ⟨c, ?_, isDigit_of_mem_toString hc⟩
  rw [hlist, hdigits]
  rfl

/-! ## Carriers -/

namespace Carrier

/-- What is followed through the code of members that it does not belong to. -/
def IsOutside : Carrier → Prop
  | field _ | input => True
  | «local» x => IsHandle x
  | encoded _ => False

def isField (f : String) : Carrier → Bool
  | field g => f == g
  | input | «local» _ | encoded _ => false

variable {w : Carrier}

theorem IsOutside.isAmong (hw : w.IsOutside) {x : String} (hx : ¬ IsHandle x) :
    w.isAmong [x] = false := by
  cases w with
  | field | input => rfl
  | «local» y =>
    have hne : y ≠ x := fun heq => hx (heq ▸ hw)
    simpa [Carrier.isAmong] using hne
  | encoded => cases hw

end Carrier

/-! ## Encoders -/

section

variable {m : Model} {p : CodecPath} {visiting : List ShapeId} {id : ShapeId} {s leaf : Shape}
  {e k v : Member} {source keyText : Expr} {binding : String} {inner stmts : List Stmt}
  {level : Nat} {w : Carrier} {collections : List Shape}

def SetsNothing (stmts : List Stmt) : Prop := ∀ t ∈ nestedStmts stmts, t.requestPart? = none

@[simp] theorem requestPart?_insertInto (buffer : String) (key e : Expr) :
    (insertInto buffer key e).requestPart? = none := by
  cases key <;> simp [insertInto, Expr.requestPart?]

@[simp] theorem nested_insertInto (buffer : String) (key e : Expr) :
    (insertInto buffer key e).nested = [insertInto buffer key e] := rfl

theorem setsNothing_listEncode (h : SetsNothing inner) :
    SetsNothing (listEncode p s e source binding inner) := by
  unfold SetsNothing at h ⊢
  cases hwrapped : s.traits.isWrapped <;> cases hsparse : s.traits.isSparse <;>
    simpa [listEncode, hwrapped, hsparse, nestedStmts, Stmt.nested, nestedArms, Arm.nested,
      nestedStmts_append, pushTo, withCapacity, Wire.emptyMap, Wire.make,
      Expr.requestPath?, Expr.requestPart?, Expr.toOwned, or_imp, forall_and] using h

theorem setsNothing_mapEncode (h : SetsNothing inner) :
    SetsNothing (mapEncode p s k v source binding keyText inner) := by
  unfold SetsNothing at h ⊢
  cases hwrapped : s.traits.isWrapped <;> cases hsparse : s.traits.isSparse <;>
    simpa [mapEncode, mapEncodeEntry, hwrapped, hsparse, nestedStmts, Stmt.nested, nestedArms,
      Arm.nested, nestedStmts_append, pushTo, withCapacity, Wire.emptyMap, Wire.make,
      Expr.requestPath?, Expr.requestPart?, Expr.toOwned, or_imp, forall_and] using h

theorem requestPath?_leafEncoder : (s.leafEncoder source).requestPath? = none := by
  unfold Shape.leafEncoder
  split
  · rename_i prim _
    cases prim <;> simp [Primitive.encodeExpr, Wire.make, Wire.call, Expr.requestPath?]
  · simp [Wire.make, Expr.requestPath?]
  · simp [Expr.requestPath?]

theorem setsNothing_encode (h : m.Nesting id collections leaf)
    (hencode : m.encode p visiting id source binding = .ok stmts) : SetsNothing stmts := by
  induction h generalizing p visiting source binding stmts with
  | leaf hs he =>
    rw [Model.encode_leaf hs he] at hencode
    obtain rfl := Except.ok.inj hencode
    intro t ht
    obtain rfl : t = .bind binding _ := by simpa [nestedStmts, Stmt.nested] using ht
    simp [requestPath?_leafEncoder]
  | collection hs he _ ih =>
    obtain ⟨around, inner, haround, hinner, rfl⟩ := Model.encode_collection_ok hs he hencode
    rcases Model.collectionEncoder_cases he haround with ⟨-, rfl⟩ | ⟨k, keyText, -, -, rfl⟩
    · exact setsNothing_listEncode (ih hinner)
    · exact setsNothing_mapEncode (ih hinner)

/-- The temporaries of collections, and the value that stands for an absent element, are other
names. -/
structure AvoidsTemps (w : Carrier) : Prop where
  temp : ∀ (p : CodecPath) role, w.isAmong [p.temp role] = false
  null : w.isAmong ["serde_json::Value::Null"] = false

/-- A carrier is found nowhere in some statements. -/
def IsAbsentFrom (w : Carrier) (stmts : List Stmt) : Prop :=
  ∀ level, occurrencesOfStmts w.found? level stmts = []

theorem isAbsentFrom_listEncode (hw : AvoidsTemps w) (hsource : w.isIn source = false)
    (h : IsAbsentFrom w inner) : IsAbsentFrom w (listEncode p s e source binding inner) := by
  unfold IsAbsentFrom at h ⊢
  intro level
  have htemp := hw.temp
  have hnull := hw.null
  cases hwrapped : s.traits.isWrapped <;> cases hsparse : s.traits.isSparse <;>
    simp [listEncode, hwrapped, hsparse, occurrencesOfStmts, Stmt.occurrences, occurrencesOfArms,
      Arm.occurrences, occurrencesOfStmts_append, ← Carrier.isIn_eq_false_iff, insertInto, pushTo,
      withCapacity, Wire.emptyMap, Wire.make, Wire.value, Carrier.isAt_source, htemp, hnull,
      hsource, h]

theorem isAbsentFrom_mapEncode (hw : AvoidsTemps w) (hsource : w.isIn source = false)
    (hkey : w.isIn keyText = false) (h : IsAbsentFrom w inner) :
    IsAbsentFrom w (mapEncode p s k v source binding keyText inner) := by
  unfold IsAbsentFrom at h ⊢
  intro level
  have htemp := hw.temp
  have hnull := hw.null
  cases hwrapped : s.traits.isWrapped <;> cases hsparse : s.traits.isSparse <;>
    simp [mapEncode, mapEncodeEntry, hwrapped, hsparse, occurrencesOfStmts, Stmt.occurrences,
      occurrencesOfArms, Arm.occurrences, occurrencesOfStmts_append, ← Carrier.isIn_eq_false_iff,
      insertInto, pushTo, withCapacity, Wire.emptyMap, Wire.make, Wire.value, Carrier.isAt_source,
      htemp, hnull, hsource, hkey, h]

/-- A value that is not the input itself is not encoded as the whole input. -/
theorem isIn_leafEncoder (hsource : source ≠ .source "input") :
    w.isIn (s.leafEncoder source) = w.isIn source := by
  have hself : w.isAt (source.receiver.method "encode" []) = false := by
    unfold Expr.receiver
    split
    · cases w <;> rfl
    · cases w <;> cases source <;> simp_all [Carrier.isAt]
  unfold Shape.leafEncoder
  split
  · rename_i prim _
    cases prim <;> simp [Primitive.encodeExpr, Wire.make, Wire.call]
  · simp [Wire.make]
  · rw [Carrier.isIn_method, hself]
    simp

theorem isIn_keyText {key : ShapeId} (h : m.keyEncoder p key (.source (p.temp "key")) = .ok keyText)
    (hw : AvoidsTemps w) : w.isIn keyText = false := by
  obtain ⟨s, -, h⟩ := bind_eq_ok.1 h
  split at h <;> obtain rfl := Except.ok.inj h <;> simp [Carrier.isAt_source, hw.temp]

theorem isIn_encodeSource (hw : AvoidsTemps w) : w.isIn (encodeSource p s) = false := by
  rw [encodeSource, Carrier.isIn_source, Carrier.isAt_source, hw.temp]

theorem temp_ne_input (p : CodecPath) (role : String) :
    Expr.source (p.temp role) ≠ .source "input" := by
  intro heq
  obtain ⟨c, hlast, hdigit⟩ := head?_reverse_temp p role
  rw [Expr.source.inj heq] at hlast
  obtain rfl := Option.some.inj hlast
  exact absurd hdigit (by decide)

theorem isAbsentFrom_encode (h : m.Nesting id collections leaf) (hw : AvoidsTemps w)
    (hinput : source ≠ .source "input") (hsource : w.isIn source = false)
    (hencode : m.encode p visiting id source binding = .ok stmts) : IsAbsentFrom w stmts := by
  induction h generalizing p visiting source binding stmts with
  | leaf hs he =>
    rw [Model.encode_leaf hs he] at hencode
    obtain rfl := Except.ok.inj hencode
    intro level
    simp [occurrencesOfStmts, Stmt.occurrences, ← Carrier.isIn_eq_false_iff,
      isIn_leafEncoder hinput, hsource]
  | collection hs he _ ih =>
    obtain ⟨around, inner, haround, hinner, rfl⟩ := Model.encode_collection_ok hs he hencode
    have habsent := ih (temp_ne_input _ _) (isIn_encodeSource hw) hinner
    rcases Model.collectionEncoder_cases he haround with ⟨-, rfl⟩ | ⟨k, keyText, -, hkey, rfl⟩
    · exact isAbsentFrom_listEncode hw hsource habsent
    · exact isAbsentFrom_mapEncode hw hsource (isIn_keyText hkey hw) habsent

/-- The code for a value binds the encoded value, and sets no part of the request. -/
theorem mem_reached_encode {isKey : Expr → Bool} {part : RequestPart} {rest : List Stmt}
    (hw : AvoidsTemps w) (hinput : source ≠ .source "input")
    (hencode : m.encode p [] id source binding = .ok stmts) :
    part ∈ reachedOfStmts isKey (stmts ++ rest) w ↔
      (w.isAmong [binding] = false ∧ part ∈ reachedOfStmts isKey rest w) ∨
      (w.isIn source = true ∧ part ∈ reachedOfStmts isKey rest (w.into binding)) := by
  obtain ⟨collections, leaf, hexpands⟩ := Model.encode_ok_iff.1 ⟨stmts, hencode⟩
  have hnothing := setsNothing_encode hexpands.nesting hencode
  have hreads : w.isIn source = false → IsAbsentFrom w stmts := fun hsource =>
    isAbsentFrom_encode hexpands.nesting hw hinput hsource hencode
  -- A leaf and a collection are both one statement, which binds the encoded value.
  have hone : ∃ stmt, stmts = [stmt] ∧ stmt.binds = [binding] ∧
      (w.isIn source = true → stmt.occurrences w.found? 0 ≠ []) := by
    cases hexpands.nesting with
    | leaf hs he =>
      rw [Model.encode_leaf hs he] at hencode
      refine ⟨_, (Except.ok.inj hencode).symm, rfl, fun hsource => ?_⟩
      rw [Stmt.occurrences, ne_eq, ← Carrier.isIn_eq_false_iff, isIn_leafEncoder hinput, hsource]
      decide
    | collection hs he _ =>
      obtain ⟨around, inner, haround, -, rfl⟩ := Model.encode_collection_ok hs he hencode
      rcases Model.collectionEncoder_cases he haround with ⟨-, rfl⟩ | ⟨k, keyText, -, -, rfl⟩
      · refine ⟨_, rfl, rfl, fun hsource => ?_⟩
        simp [Stmt.occurrences, occurrencesOfStmts, ← Carrier.isIn_eq_false_iff, withCapacity,
          hsource]
      · refine ⟨_, rfl, rfl, fun hsource => ?_⟩
        rw [Stmt.occurrences]
        split <;> simp [Stmt.occurrences, occurrencesOfStmts, ← Carrier.isIn_eq_false_iff,
          withCapacity, hsource]
  obtain ⟨stmt, rfl, hbinds, hfound⟩ := hone
  have hself : ∀ t ∈ stmt.nested, t.requestPart? = none := fun t ht =>
    hnothing t (List.mem_append_left _ ht)
  have hpart : stmt.requestPart? = none := hself stmt (by cases stmt <;> simp [Stmt.nested])
  have hread : stmt.occurrences w.found? 0 ≠ [] ↔ w.isIn source = true := by
    refine ⟨fun h => ?_, hfound⟩
    by_contra hsource
    have habsent := hreads (Bool.eq_false_iff.2 hsource) 0
    rw [occurrencesOfStmts, occurrencesOfStmts, List.append_nil] at habsent
    exact h habsent
  rw [List.singleton_append, mem_reached_binding hbinds hpart (stmt.inside_eq_nil w hself), hread]

end

end ClientGen
