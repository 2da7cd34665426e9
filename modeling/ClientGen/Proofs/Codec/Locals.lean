import ClientGen.Proofs.Codec.Nesting
import ClientGen.Proofs.Naming.Words
import Mathlib.Data.List.Nodup
import Mathlib.Data.List.TakeWhile

/-!
# The locals of a codec

The code for a member of a structure binds names that are made of the stem of the member, an
underscore and a tag without one. A tag is a role, or for the temporaries of a collection a role
with the number of the collections around it. So a name tells which member, which role and which
depth it is for. The roles in one collection differ, the collections are one inside the other, and
members that are accepted have stems of their own; hence no name is bound twice.
-/

namespace ClientGen

/-! ## The names that statements bind -/

mutual

/-- The names that a statement binds, with those bound inside it. -/
def Stmt.locals : Stmt → List String
  | .bind x _ | .bindMut x _ | .bindTyped x _ _ => [x]
  | .bindBlock x body => x :: localsOfStmts body
  | .bindMatch p _ arms => p.names ++ localsOfArms arms
  | .forIn p _ body | .ifLet p _ body => p.names ++ localsOfStmts body
  | .ifHolds _ body => localsOfStmts body
  | .matchOn _ arms => localsOfArms arms
  | .assign _ _ | .run _ | .next | .result _ | .fail _ _ | .construct _ _ | .need _ => []

/-- The names that several statements bind. -/
def localsOfStmts : List Stmt → List String
  | [] => []
  | s :: rest => s.locals ++ localsOfStmts rest

/-- The names that an arm of a match binds. -/
def Arm.locals : Arm → List String
  | .value p _ | .skip p => p.names
  | .block p body => p.names ++ localsOfStmts body

/-- The names that several arms bind. -/
def localsOfArms : List Arm → List String
  | [] => []
  | a :: rest => a.locals ++ localsOfArms rest

end

theorem localsOfStmts_append (front back : List Stmt) :
    localsOfStmts (front ++ back) = localsOfStmts front ++ localsOfStmts back := by
  induction front with
  | nil => rfl
  | cons s front ih => rw [List.cons_append, localsOfStmts, ih, localsOfStmts, List.append_assoc]

theorem localsOfStmts_eq_flatMap (stmts : List Stmt) :
    localsOfStmts stmts = stmts.flatMap Stmt.locals := by
  induction stmts with
  | nil => rfl
  | cons s stmts ih => rw [localsOfStmts, ih, List.flatMap_cons]

theorem localsOfStmts_flatten (stmts : List (List Stmt)) :
    localsOfStmts stmts.flatten = stmts.flatMap localsOfStmts := by
  induction stmts with
  | nil => rfl
  | cons s stmts ih => rw [List.flatten_cons, localsOfStmts_append, ih, List.flatMap_cons]

/-! ## Tags -/

/-- A role is written in small letters. -/
def IsRole (role : String) : Prop := role.toList.all Char.isLower = true

instance (role : String) : Decidable (IsRole role) :=
  inferInstanceAs (Decidable (role.toList.all Char.isLower = true))

def depthTag (role : String) (depth : Nat) : String := role ++ toString depth

theorem isDigit_of_mem_toString {n : Nat} {c : Char} (hc : c ∈ (toString n).toList) :
    c.isDigit = true := by
  rw [Nat.toString_eq_ofList_toDigits, String.toList_ofList] at hc
  exact Nat.isDigit_of_mem_toDigits (by decide) (by decide) hc

theorem not_isLower_of_isDigit {c : Char} (h : c.isDigit = true) : c.isLower = false := by
  have hdigit : c.val ≤ '9'.val := of_decide_eq_true (Bool.and_eq_true_iff.1 h).2
  rw [Bool.eq_false_iff]
  intro hlower
  have hsmall : 'a'.val ≤ c.val := of_decide_eq_true (Bool.and_eq_true_iff.1 hlower).1
  exact absurd (UInt32.le_trans hsmall hdigit) (by decide)

theorem takeWhile_depthTag {role : String} (hrole : IsRole role) (depth : Nat) :
    (depthTag role depth).toList.takeWhile Char.isLower = role.toList := by
  rw [depthTag, String.toList_append, List.takeWhile_append_of_pos (List.all_eq_true.1 hrole)]
  have hdigits : (toString depth).toList.takeWhile Char.isLower = [] := by
    cases hd : (toString depth).toList with
    | nil => rfl
    | cons c rest =>
      have hc : c ∈ (toString depth).toList := hd ▸ List.mem_cons_self
      rw [List.takeWhile_cons, not_isLower_of_isDigit (isDigit_of_mem_toString hc)]
      rfl
  rw [hdigits, List.append_nil]

theorem depthTag_inj {role role' : String} {depth depth' : Nat} (hrole : IsRole role)
    (hrole' : IsRole role') (h : depthTag role depth = depthTag role' depth') :
    role = role' ∧ depth = depth' := by
  have hroles := takeWhile_depthTag hrole depth
  rw [h, takeWhile_depthTag hrole' depth'] at hroles
  obtain rfl := String.toList_inj.1 hroles
  refine ⟨rfl, ?_⟩
  rw [depthTag, depthTag, String.append_right_inj, Nat.toString_eq_ofList_toDigits,
    Nat.toString_eq_ofList_toDigits] at h
  have hvalue := congrArg (fun s => Nat.ofDigitChars 10 s.toList 0) h
  simpa only [String.toList_ofList, Nat.ofDigitChars_ten_toDigits] using hvalue

/-- A role by itself is no role at a depth. -/
theorem depthTag_ne {role role' : String} (hrole : IsRole role) (hrole' : IsRole role')
    (depth : Nat) : role ≠ depthTag role' depth := by
  intro h
  have htake := takeWhile_depthTag hrole' depth
  rw [← h, List.takeWhile_eq_self_iff.2 (List.all_eq_true.1 hrole)] at htake
  obtain rfl := String.toList_inj.1 htake
  have hlength := congrArg String.length h
  rw [depthTag, String.length_append] at hlength
  have hpos : 0 < (toString depth).length := by
    rw [Nat.toString_eq_ofList_toDigits, String.length_ofList]
    exact Nat.length_toDigits_pos
  omega

def IsTag (tag : String) : Prop := '_' ∉ tag.toList

theorem IsRole.isTag {role : String} (h : IsRole role) : IsTag role :=
  fun hmem => absurd (List.all_eq_true.1 h _ hmem) (by decide)

theorem isTag_depthTag {role : String} (h : IsRole role) (depth : Nat) :
    IsTag (depthTag role depth) := by
  intro hmem
  rw [depthTag, String.toList_append, List.mem_append] at hmem
  rcases hmem with hmem | hmem
  · exact h.isTag hmem
  · exact absurd (isDigit_of_mem_toString hmem) (by decide)

/-- What stands before the first of some character, and what stands behind it. -/
theorem split_inj {c : Char} {front front' back back' : List Char} (h : c ∉ front)
    (h' : c ∉ front') (heq : front ++ c :: back = front' ++ c :: back') :
    front = front' ∧ back = back' := by
  induction front generalizing front' with
  | nil =>
    cases front' with
    | nil => exact ⟨rfl, (List.cons.inj heq).2⟩
    | cons d rest => exact absurd (List.cons.inj heq).1 (List.ne_of_not_mem_cons h')
  | cons a front ih =>
    cases front' with
    | nil => exact absurd (List.cons.inj heq).1.symm (List.ne_of_not_mem_cons h)
    | cons d rest =>
      obtain ⟨rfl, hrest⟩ := List.cons.inj heq
      obtain ⟨rfl, hback⟩ := ih (List.not_mem_of_not_mem_cons h) (List.not_mem_of_not_mem_cons h')
        hrest
      exact ⟨rfl, hback⟩

namespace CodecPath

theorem toList_ofRole (p : CodecPath) (tag : String) :
    (p.ofRole tag).toList = p.stem.toList ++ '_' :: tag.toList := by
  simp [ofRole, toString]

theorem temp_eq_ofRole (p : CodecPath) (role : String) :
    p.temp role = p.ofRole (depthTag role p.depth) := by
  rw [← String.toList_inj, toList_ofRole]
  simp [temp, depthTag, toString]

/-- The last underscore of a name stands between stem and tag. -/
theorem ofRole_inj {p q : CodecPath} {tag tag' : String} (htag : IsTag tag) (htag' : IsTag tag')
    (h : p.ofRole tag = q.ofRole tag') : p.stem = q.stem ∧ tag = tag' := by
  have hlist := congrArg (fun s => s.toList.reverse) h
  simp only [toList_ofRole, List.reverse_append, List.reverse_cons, List.append_assoc,
    List.singleton_append] at hlist
  obtain ⟨htags, hstems⟩ := split_inj (fun hmem => htag (List.mem_reverse.1 hmem))
    (fun hmem => htag' (List.mem_reverse.1 hmem)) hlist
  exact ⟨String.toList_inj.1 (List.reverse_injective hstems),
    String.toList_inj.1 (List.reverse_injective htags)⟩

end CodecPath

/-! ## Collections -/

namespace Shape

/-- The roles of the temporaries with which a collection is decoded, other than the element. -/
def decodeRoles (s : Shape) : List String :=
  match s.kind with
  | .map _ _ =>
    if s.traits.isWrapped then
      ["members", "items", "buffer", "entry", "fields", "key", "mapkey", "value"]
    else ["entries", "buffer", "key", "value", "mapkey"]
  | _ => (if s.traits.isWrapped then ["members"] else []) ++ ["items", "buffer", "value"]

/-- The roles of the temporaries with which a collection is encoded, other than the element. -/
def encodeRoles (s : Shape) : List String :=
  let present := if s.traits.isSparse then ["present"] else []
  match s.kind with
  | .map _ _ =>
    if s.traits.isWrapped then ["entries", "key", "item", "entry"] ++ present ++ ["wrapper"]
    else ["object", "key", "item"] ++ present
  | _ => ["array", "item"] ++ present ++ if s.traits.isWrapped then ["wrapper"] else []

end Shape

/-- Every role is one, and none comes twice or is that of the element. -/
def AreRoles (roles : List String) : Prop :=
  ("element" :: roles).Nodup ∧ ∀ role ∈ "element" :: roles, IsRole role

theorem Shape.areRoles (s : Shape) : AreRoles s.decodeRoles ∧ AreRoles s.encodeRoles := by
  unfold AreRoles decodeRoles encodeRoles
  cases s.kind <;> cases s.traits.isWrapped <;> cases s.traits.isSparse <;> dsimp only <;> decide

/-- The tags of the temporaries for some collections, one inside the other. -/
def depthTags (roles : Shape → List String) (depth : Nat) : List Shape → List String
  | [] => []
  | s :: rest =>
    ("element" :: roles s).map (depthTag · depth) ++ depthTags roles (depth + 1) rest

section

variable {roles : Shape → List String} (hroles : ∀ s, AreRoles (roles s))

include hroles

theorem exists_of_mem_depthTags {depth : Nat} {collections : List Shape} {tag : String}
    (h : tag ∈ depthTags roles depth collections) :
    ∃ role depth', IsRole role ∧ depth ≤ depth' ∧ tag = depthTag role depth' := by
  induction collections generalizing depth with
  | nil => cases h
  | cons s rest ih =>
    rcases List.mem_append.1 h with h | h
    · obtain ⟨role, hrole, rfl⟩ := List.mem_map.1 h
      exact ⟨role, depth, (hroles s).2 role hrole, le_refl depth, rfl⟩
    · obtain ⟨role, depth', hrole, hdepth, rfl⟩ := ih h
      exact ⟨role, depth', hrole, by omega, rfl⟩

theorem nodup_depthTags (depth : Nat) (collections : List Shape) :
    (depthTags roles depth collections).Nodup := by
  induction collections generalizing depth with
  | nil => exact .nil
  | cons s rest ih =>
    refine List.nodup_append.2 ⟨?_, ih (depth + 1), fun tag htag tag' htag' heq => ?_⟩
    · refine (hroles s).1.map_on fun role hrole role' hrole' heq => ?_
      exact (depthTag_inj ((hroles s).2 role hrole) ((hroles s).2 role' hrole') heq).1
    · obtain ⟨role, hrole, rfl⟩ := List.mem_map.1 htag
      obtain ⟨role', depth', hrole', hdepth, rfl⟩ := exists_of_mem_depthTags hroles htag'
      have hsame := (depthTag_inj ((hroles s).2 role hrole) hrole' heq).2
      omega

end

section

variable {m : Model} {p : CodecPath} {visiting : List ShapeId} {id : ShapeId} {s : Shape}
  {e k v : Member} {source : Expr} {binding : String} {inner stmts : List Stmt}

theorem locals_listDecode (he : s.kind = .list e ∨ s.kind = .set e) :
    localsOfStmts (listDecode p s e source binding inner) =
      binding :: s.decodeRoles.map p.temp ++ localsOfStmts inner := by
  unfold Shape.decodeRoles
  rcases he with he | he <;> rw [he] <;> cases hwrapped : s.traits.isWrapped <;>
    cases hsparse : s.traits.isSparse <;>
    simp [listDecode, listDecodeLoop, skipNull, hwrapped, hsparse, localsOfStmts, Stmt.locals,
      localsOfArms, Arm.locals, Pattern.names, Pattern.some, Pattern.absent, localsOfStmts_append]

theorem locals_mapDecode (he : s.kind = .map k v) (conversion : Expr → Expr) :
    localsOfStmts (mapDecode p s k v source binding conversion inner) =
      binding :: s.decodeRoles.map p.temp ++ localsOfStmts inner := by
  unfold Shape.decodeRoles
  rw [he]
  cases hwrapped : s.traits.isWrapped <;> cases hsparse : s.traits.isSparse <;>
    simp [mapDecode, mapDecodeEntry, skipNull, insertInto, hwrapped, hsparse, localsOfStmts,
      Stmt.locals, localsOfArms, Arm.locals, Pattern.names, Pattern.some, Pattern.absent,
      localsOfStmts_append]

theorem locals_listEncode (he : s.kind = .list e ∨ s.kind = .set e) :
    (localsOfStmts (listEncode p s e source binding inner)).Perm
      (binding :: s.encodeRoles.map p.temp ++ localsOfStmts inner) := by
  unfold Shape.encodeRoles
  rcases he with he | he <;> rw [he] <;> cases hwrapped : s.traits.isWrapped <;>
    cases hsparse : s.traits.isSparse <;>
    simp [listEncode, insertInto, hwrapped, hsparse, localsOfStmts, Stmt.locals, localsOfArms,
      Arm.locals, Pattern.names, Pattern.some, localsOfStmts_append]

theorem locals_mapEncode (he : s.kind = .map k v) (keyText : Expr) :
    (localsOfStmts (mapEncode p s k v source binding keyText inner)).Perm
      (binding :: s.encodeRoles.map p.temp ++ localsOfStmts inner) := by
  unfold Shape.encodeRoles
  rw [he]
  cases hwrapped : s.traits.isWrapped <;> cases hsparse : s.traits.isSparse <;>
    simp [mapEncode, mapEncodeEntry, insertInto, hwrapped, hsparse, localsOfStmts, Stmt.locals,
      localsOfArms, Arm.locals, Pattern.names, Pattern.some, localsOfStmts_append]

/-- Around the temporaries of what it holds, a collection has those of its own. -/
theorem perm_depthTags {roles : Shape → List String} {rest : List Shape}
    {names innerNames : List String}
    (hnames : names.Perm (binding :: (roles s).map p.temp ++ innerNames))
    (hinner : innerNames.Perm (p.temp "element" ::
      (depthTags roles p.deeper.depth rest).map p.deeper.ofRole)) :
    names.Perm (binding :: (depthTags roles p.depth (s :: rest)).map p.ofRole) := by
  have htemps : ∀ l : List String, (l.map (depthTag · p.depth)).map p.ofRole = l.map p.temp :=
    fun l => by simp [List.map_map, Function.comp_def, CodecPath.temp_eq_ofRole]
  rw [depthTags, List.map_append, htemps, List.map_cons]
  exact (hnames.trans (hinner.append_left _)).trans (List.perm_middle.cons binding)

/-- A decoder binds its result and the temporaries of the collections that it expands. -/
theorem locals_decode {collections : List Shape} {leaf : Shape}
    (h : m.Nesting id collections leaf)
    (hdecode : m.decode p visiting id source binding = .ok stmts) :
    (localsOfStmts stmts).Perm
      (binding :: (depthTags Shape.decodeRoles p.depth collections).map p.ofRole) := by
  induction h generalizing p visiting source binding stmts with
  | leaf hs he =>
    rw [Model.decode_leaf hs he] at hdecode
    obtain rfl := Except.ok.inj hdecode
    exact .refl _
  | collection hs he _ ih =>
    obtain ⟨around, inner, haround, hinner, rfl⟩ := Model.decode_collection_ok hs he hdecode
    refine perm_depthTags (.of_eq ?_) (ih hinner)
    rcases Model.collectionDecoder_cases he haround with
      ⟨hkind, rfl⟩ | ⟨k, conversion, hkind, -, rfl⟩
    · exact locals_listDecode hkind
    · exact locals_mapDecode hkind conversion

/-- An encoder binds its result and the temporaries of the collections that it expands. -/
theorem locals_encode {collections : List Shape} {leaf : Shape}
    (h : m.Nesting id collections leaf)
    (hencode : m.encode p visiting id source binding = .ok stmts) :
    (localsOfStmts stmts).Perm
      (binding :: (depthTags Shape.encodeRoles p.depth collections).map p.ofRole) := by
  induction h generalizing p visiting source binding stmts with
  | leaf hs he =>
    rw [Model.encode_leaf hs he] at hencode
    obtain rfl := Except.ok.inj hencode
    exact .refl _
  | collection hs he _ ih =>
    obtain ⟨around, inner, haround, hinner, rfl⟩ := Model.encode_collection_ok hs he hencode
    refine perm_depthTags ?_ (ih hinner)
    rcases Model.collectionEncoder_cases he haround with ⟨hkind, rfl⟩ | ⟨k, keyText, hkind, -, rfl⟩
    · exact locals_listEncode hkind
    · exact locals_mapEncode hkind keyText

end

/-! ## Members -/

/-- The names are made of the stem of the member and tags of their own. -/
structure AreLocalsOf (e : Member) (names : List String) : Prop where
  nodup : names.Nodup
  tagged : ∀ x ∈ names, ∃ tag, IsTag tag ∧ x = (CodecPath.ofMember e.name).ofRole tag

/-- Some roles of a member and the temporaries of the collections in it are locals of the member. -/
theorem areLocalsOf_depthTags {e : Member} {names : List String} {roles : Shape → List String}
    (hroles : ∀ s, AreRoles (roles s)) (own : List String) (hnodup : own.Nodup)
    (hown : ∀ role ∈ own, IsRole role) (collections : List Shape)
    (h : names.Perm ((own ++ depthTags roles 0 collections).map
      (CodecPath.ofMember e.name).ofRole)) : AreLocalsOf e names := by
  have htags : ∀ tag ∈ own ++ depthTags roles 0 collections, IsTag tag := fun tag htag => by
    rcases List.mem_append.1 htag with htag | htag
    · exact (hown tag htag).isTag
    · obtain ⟨role, depth, hrole, -, rfl⟩ := exists_of_mem_depthTags hroles htag
      exact isTag_depthTag hrole depth
  constructor
  · refine h.nodup_iff.2 (List.Nodup.map_on (fun tag htag tag' htag' heq => ?_) ?_)
    · exact (CodecPath.ofRole_inj (htags tag htag) (htags tag' htag') heq).2
    · refine List.nodup_append.2 ⟨hnodup, nodup_depthTags hroles 0 collections, ?_⟩
      intro role hrole tag htag heq
      obtain ⟨role', depth, hrole', -, rfl⟩ := exists_of_mem_depthTags hroles htag
      exact depthTag_ne (hown role hrole) hrole' depth heq
  · intro x hx
    obtain ⟨tag, htag, rfl⟩ := List.mem_map.1 (h.mem_iff.1 hx)
    exact ⟨tag, htags tag htag, rfl⟩

namespace Model

variable {m : Model} {s : Shape} {e : Member}

theorem areLocalsOf_decodeMember {stmt : Stmt} (h : m.decodeMember s e = .ok stmt) :
    AreLocalsOf e stmt.locals := by
  obtain ⟨symbol, -, h⟩ := bind_eq_ok.1 h
  obtain ⟨inner, hinner, h⟩ := bind_eq_ok.1 h
  obtain rfl := Except.ok.inj h
  obtain ⟨collections, leaf, hexpands⟩ := decode_ok_iff.1 ⟨inner, hinner⟩
  have habsent : (absentArm s e symbol).locals = [] := by
    unfold absentArm
    split <;> rfl
  refine areLocalsOf_depthTags (fun s => s.areRoles.1) ["decoded", "wire", "member"] (by decide)
    (by decide) collections ?_
  simp only [Stmt.locals, localsOfArms, Arm.locals, habsent, localsOfStmts_append, localsOfStmts,
    Pattern.names, Pattern.some, List.append_nil, List.nil_append, List.cons_append, List.map_cons]
  exact ((locals_decode hexpands.nesting hinner).cons _).cons _

/-- All that the encoder of a member binds is named after the member, each name once. -/
theorem areLocalsOf_encodeMember {stmts : List Stmt} (h : m.encodeMember s e = .ok stmts) :
    AreLocalsOf e (localsOfStmts stmts) := by
  obtain ⟨symbol, -, h⟩ := bind_eq_ok.1 h
  have hencoded : ∀ {source inner}, m.encode (.ofMember e.name) [] e.target source
      ((CodecPath.ofMember e.name).ofRole "wire") = .ok inner →
      ∃ collections, (localsOfStmts (inner ++ [insertMember s e
        ((CodecPath.ofMember e.name).ofRole "wire")])).Perm
        (("wire" :: depthTags Shape.encodeRoles 0 collections).map
          (CodecPath.ofMember e.name).ofRole) := fun {source inner} hinner => by
    obtain ⟨collections, leaf, hexpands⟩ := encode_ok_iff.1 ⟨inner, hinner⟩
    refine ⟨collections, ?_⟩
    rw [localsOfStmts_append, insertMember, insertInto, localsOfStmts, Stmt.locals, localsOfStmts,
      List.append_nil, List.append_nil]
    exact locals_encode hexpands.nesting hinner
  dsimp only at h
  split at h
  · obtain ⟨inner, hinner, h⟩ := bind_eq_ok.1 h
    obtain rfl := Except.ok.inj h
    obtain ⟨collections, hlocals⟩ := hencoded hinner
    refine areLocalsOf_depthTags (fun s => s.areRoles.2) ["present", "wire"] (by decide)
      (by decide) collections ?_
    simp only [localsOfStmts, Stmt.locals, Pattern.names, Pattern.some, List.append_nil,
      List.cons_append, List.map_cons, List.nil_append]
    exact hlocals.cons _
  · obtain ⟨inner, hinner, h⟩ := bind_eq_ok.1 h
    obtain rfl := Except.ok.inj h
    obtain ⟨collections, hlocals⟩ := hencoded hinner
    exact areLocalsOf_depthTags (fun s => s.areRoles.2) ["wire"] (by decide) (by decide) collections
      hlocals

/-! ## Structures -/

/-- The name starts with a letter in snake case. -/
def StartsWithLetter (name : String) : Prop :=
  (Naming.snakeCase name).toList.head?.any Char.isAlpha = true

instance (name : String) : Decidable (StartsWithLetter name) :=
  inferInstanceAs (Decidable (_ = true))

/-- Such a name is the stem itself in snake case. -/
theorem tempStem_eq {name : String} (h : StartsWithLetter name) :
    Naming.tempStem name = Naming.snakeCase name := by
  unfold StartsWithLetter at h
  obtain ⟨c, hc, hletter⟩ := (Option.any_eq_true _ _).1 h
  have hempty : (Naming.snakeCase name).isEmpty = false := by
    rw [Bool.eq_false_iff]
    intro hempty
    rw [String.isEmpty_iff.1 hempty] at hc
    cases hc
  have hdigit : Naming.startsWithDigit (Naming.snakeCase name) = false := by
    have halnum : c.isAlphanum = true := by simp [Char.isAlphanum, hletter]
    rw [Naming.startsWithDigit, hc, Option.any_some, Naming.isAsciiDigit_eq halnum, hletter]
    rfl
  rw [Naming.tempStem]
  simp only [hempty, hdigit]
  rfl

/-- Members that are accepted and start with letters have stems of their own. -/
theorem pairwise_stems (hmembers : s.checkMembers = .ok ())
    (hletters : ∀ e ∈ s.members, StartsWithLetter e.name) :
    s.members.Pairwise fun a b =>
      (CodecPath.ofMember a.name).stem ≠ (CodecPath.ofMember b.name).stem := by
  refine (Shape.pairwise_of_checkMembers hmembers).imp_of_mem fun {a b} ha hb hnames hstem => ?_
  have hfield := hnames.field
  simp only [CodecPath.ofMember, tempStem_eq (hletters a ha), tempStem_eq (hletters b hb)] at hstem
  rw [Naming.fieldName, Naming.fieldName, hstem] at hfield
  exact hfield rfl

/-- The locals of several members with stems of their own, one after the other. -/
theorem locals_of_mapM {β : Type} {f : Member → Except GenerationError β} {names : β → List String}
    (hf : ∀ e b, f e = .ok b → AreLocalsOf e (names b)) {members : List Member} {bs : List β}
    (hstems : members.Pairwise fun a b =>
      (CodecPath.ofMember a.name).stem ≠ (CodecPath.ofMember b.name).stem)
    (hbs : members.mapM f = .ok bs) :
    (bs.flatMap names).Nodup ∧ ∀ x ∈ bs.flatMap names, ∃ e ∈ members, ∃ tag, IsTag tag ∧
      x = (CodecPath.ofMember e.name).ofRole tag := by
  induction members generalizing bs with
  | nil =>
    obtain rfl := Except.ok.inj hbs
    exact ⟨.nil, fun x hx => by cases hx⟩
  | cons e members ih =>
    rw [List.mapM_cons] at hbs
    obtain ⟨b, hb, hbs⟩ := bind_eq_ok.1 hbs
    obtain ⟨rest, hrest, hbs⟩ := bind_eq_ok.1 hbs
    obtain rfl := Except.ok.inj hbs
    obtain ⟨hhead, htail⟩ := List.pairwise_cons.1 hstems
    obtain ⟨hnodup, htagged⟩ := ih htail hrest
    have hlocals := hf e b hb
    rw [List.flatMap_cons]
    constructor
    · refine List.nodup_append.2 ⟨hlocals.nodup, hnodup, fun x hx y hy heq => ?_⟩
      obtain ⟨tag, htag, rfl⟩ := hlocals.tagged x hx
      obtain ⟨e', he', tag', htag', rfl⟩ := htagged y hy
      exact hhead e' he' (CodecPath.ofRole_inj htag htag' heq).1
    · intro x hx
      rcases List.mem_append.1 hx with hx | hx
      · obtain ⟨tag, htag, heq⟩ := hlocals.tagged x hx
        exact ⟨e, List.mem_cons_self, tag, htag, heq⟩
      · obtain ⟨e', he', htag⟩ := htagged x hx
        exact ⟨e', List.mem_cons_of_mem _ he', htag⟩

theorem ofRole_ne {name : String} (h : '_' ∉ name.toList) (p : CodecPath) (tag : String) :
    name ≠ p.ofRole tag := by
  rintro rfl
  exact h (by simp [CodecPath.toList_ofRole])

/-- Behind the names that are fixed, the locals of the members are new. -/
theorem nodup_fixed {β : Type} {f : Member → Except GenerationError β} {names : β → List String}
    (hf : ∀ e b, f e = .ok b → AreLocalsOf e (names b)) {bs : List β}
    (hmembers : s.checkMembers = .ok ()) (hletters : ∀ e ∈ s.members, StartsWithLetter e.name)
    (hbs : s.members.mapM f = .ok bs) : ("value" :: "container" :: bs.flatMap names).Nodup := by
  obtain ⟨hnodup, htagged⟩ := locals_of_mapM hf (pairwise_stems hmembers hletters) hbs
  have hfixed : ∀ name : String, '_' ∉ name.toList → name ∉ bs.flatMap names := by
    intro name hname hmem
    obtain ⟨e, -, tag, -, heq⟩ := htagged name hmem
    exact ofRole_ne hname _ _ heq
  refine List.nodup_cons.2 ⟨?_, List.nodup_cons.2 ⟨hfixed _ (by decide), hnodup⟩⟩
  intro hmem
  rcases List.mem_cons.1 hmem with heq | hmem
  · exact absurd heq (by decide)
  · exact hfixed _ (by decide) hmem

/-- Whatever the members are called and hold, as long as their names are accepted and start with
letters: the decoder and the encoder bind the object of the structure first, if there are members,
and behind it no name twice, none that is bound before, and not that of the parameter. -/
theorem nodup_locals {item : Item} (hmembers : s.checkMembers = .ok ())
    (hletters : ∀ e ∈ s.members, StartsWithLetter e.name) (hcodec : m.structureCodec s = .ok item) :
    ∃ decoderDoc decoder encoderDoc encoder,
      item = .impl none s.generatedName [.function decoderDoc true decodeSignature decoder,
        .function encoderDoc true encodeSignature encoder] ∧
      let object := if s.members.isEmpty then [] else ["container"]
      ∃ decoded encoded, localsOfStmts decoder = object ++ decoded ∧
        ("value" :: "container" :: decoded).Nodup ∧
        localsOfStmts encoder = object ++ encoded ∧
        ("value" :: "container" :: encoded).Nodup := by
  obtain ⟨decoder, hdecoder, hcodec⟩ := bind_eq_ok.1 hcodec
  obtain ⟨encoder, hencoder, hcodec⟩ := bind_eq_ok.1 hcodec
  refine ⟨_, decoder, _, encoder, (Except.ok.inj hcodec).symm, ?_⟩
  unfold structureDecoder at hdecoder
  unfold structureEncoder at hencoder
  dsimp only
  split at hdecoder
  · rename_i hempty
    rw [if_pos hempty] at hencoder ⊢
    obtain rfl := Except.ok.inj hdecoder
    obtain rfl := Except.ok.inj hencoder
    exact ⟨[], [], rfl, by decide, rfl, by decide⟩
  · rename_i hmany
    rw [if_neg hmany] at hencoder ⊢
    obtain ⟨decoded, hdecoded, hdecoder⟩ := bind_eq_ok.1 hdecoder
    obtain ⟨encoded, hencoded, hencoder⟩ := bind_eq_ok.1 hencoder
    obtain rfl := Except.ok.inj hdecoder
    obtain rfl := Except.ok.inj hencoder
    refine ⟨decoded.flatMap Stmt.locals, encoded.flatMap localsOfStmts, ?_,
      nodup_fixed (fun e stmt => areLocalsOf_decodeMember) hmembers hletters hdecoded, ?_,
      nodup_fixed (fun e stmts => areLocalsOf_encodeMember) hmembers hletters hencoded⟩
    · simp [localsOfStmts_eq_flatMap, bindContainer, Stmt.locals]
    · simp [localsOfStmts, localsOfStmts_append, localsOfStmts_flatten, Stmt.locals]

/-- A member without a default has a symbol where its target has one. -/
theorem exists_memberSymbol {ns : String} (hs : m.shape? s.id = some s)
    (hfallback : e.fallback? = none) (h : ∃ target, m.symbol ns e.target = .ok target) :
    ∃ symbol, m.memberSymbol ns s.id e = .ok symbol := by
  obtain ⟨target, htarget⟩ := h
  rw [memberSymbol, ok_bind htarget, refineSymbol, ok_bind (resolveShape_eq_ok.2 hs), hfallback]
  dsimp only
  split <;> exact ⟨_, rfl⟩

/-- A structure has a codec where its members have symbols and can be expanded. -/
theorem exists_structureCodec (h : ∀ e ∈ s.members,
    (∃ symbol, m.memberSymbol modelNamespace s.id e = .ok symbol) ∧
      ∃ collections leaf, m.Expands (·.isKey = true) [] e.target collections leaf) :
    ∃ item, m.structureCodec s = .ok item := by
  have hdecoded : ∀ e ∈ s.members, ∃ stmt, m.decodeMember s e = .ok stmt ∧ True := fun e he => by
    obtain ⟨⟨symbol, hsymbol⟩, hexpands⟩ := h e he
    obtain ⟨inner, hinner⟩ := decode_ok_iff.2 hexpands
    rw [decodeMember, ok_bind hsymbol, ok_bind hinner]
    exact ⟨_, rfl, trivial⟩
  have hencoded : ∀ e ∈ s.members, ∃ stmts, m.encodeMember s e = .ok stmts ∧ True := fun e he => by
    obtain ⟨⟨symbol, hsymbol⟩, collections, leaf, hexpands⟩ := h e he
    have hany : ∀ source binding, ∃ inner,
        m.encode (.ofMember e.name) [] e.target source binding = .ok inner := fun _ _ =>
      encode_ok_iff.2 ⟨collections, leaf, hexpands.nesting, hexpands.fresh, hexpands.nodup,
        fun c hc => (hexpands.keys c hc).mono fun _ _ => trivial⟩
    rw [encodeMember, ok_bind hsymbol]
    dsimp only
    split
    · obtain ⟨inner, hinner⟩ := hany _ _
      rw [ok_bind hinner]
      exact ⟨_, rfl, trivial⟩
    · obtain ⟨inner, hinner⟩ := hany _ _
      rw [ok_bind hinner]
      exact ⟨_, rfl, trivial⟩
  obtain ⟨decoded, hdecoded, -⟩ := mapM_exists_ok hdecoded
  obtain ⟨encoded, hencoded, -⟩ := mapM_exists_ok hencoded
  rw [structureCodec, structureDecoder, structureEncoder]
  cases s.members.isEmpty with
  | true => exact ⟨_, rfl⟩
  | false =>
    rw [hdecoded, hencoded]
    exact ⟨_, rfl⟩

/-- A member that is called like another one and a role, both of them lists. -/
theorem nodup_locals_cells :
    let text : Shape := .ofPrimitive .string
    let cells : Shape := ⟨⟨"store", "Cells"⟩, .list ⟨"member", text.id, false, []⟩,
      [.sparse, .wrapped]⟩
    let row : Shape := ⟨⟨"store", "Row"⟩,
      .structure [⟨"cells", cells.id, false, []⟩, ⟨"cellsItems", cells.id, true, []⟩], []⟩
    let m : Model := ⟨⟨[text, cells, row], by decide⟩, .empty, .empty⟩
    row.checkMembers = .ok () ∧ (∀ e ∈ row.members, StartsWithLetter e.name) ∧
      ∃ decoderDoc decoder encoderDoc encoder,
        m.structureCodec row = .ok (.impl none row.generatedName
          [.function decoderDoc true decodeSignature decoder,
            .function encoderDoc true encodeSignature encoder]) ∧
        (localsOfStmts decoder).Nodup ∧ (localsOfStmts encoder).Nodup := by
  intro text cells row m
  have htext : m.shape? text.id = some text := by decide
  have hcells : m.shape? cells.id = some cells := by decide
  have hmembers : row.checkMembers = .ok () := by decide
  have hletters : ∀ e ∈ row.members, StartsWithLetter e.name := by decide
  have hexpands : m.Expands (·.isKey = true) [] cells.id [cells] text :=
    .collection hcells rfl (by decide) (.of_not_map (by simp [cells])) (expands_leaf htext rfl)
  have hsymbol : ∃ symbol, m.symbol modelNamespace cells.id = .ok symbol := by
    have hheld : m.symbolFrom modelNamespace [cells.id] text.id = .ok Primitive.string.symbol :=
      (symbolFrom_shape (by decide) htext).trans rfl
    rw [symbol, symbolFrom_shape List.not_mem_nil hcells]
    exact exists_map_eq_ok.2 ⟨_, hheld⟩
  have hcodec : ∃ item, m.structureCodec row = .ok item := by
    refine exists_structureCodec fun e he => ?_
    have htarget : e.target = cells.id ∧ e.fallback? = none := by
      revert e
      decide
    rw [htarget.1]
    refine ⟨exists_memberSymbol (by decide) htarget.2 ?_, _, _, hexpands⟩
    rw [htarget.1]
    exact hsymbol
  obtain ⟨item, hcodec⟩ := hcodec
  obtain ⟨decoderDoc, decoder, encoderDoc, encoder, rfl, decoded, encoded, hdecoder, hdecoded,
    hencoder, hencoded⟩ := nodup_locals hmembers hletters hcodec
  refine ⟨hmembers, hletters, decoderDoc, decoder, encoderDoc, encoder, hcodec, ?_, ?_⟩
  · rw [hdecoder]
    exact (List.nodup_cons.1 hdecoded).2
  · rw [hencoder]
    exact (List.nodup_cons.1 hencoded).2

end Model

end ClientGen
