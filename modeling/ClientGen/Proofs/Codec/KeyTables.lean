import ClientGen.Proofs.Codec.WireKeys
import ClientGen.Proofs.Graph.CycleReports
import Mathlib.Data.List.Nodup

/-!
# The tables between keys and members

The type of the keys of a record has two functions: from a variant to the key on the wire, and back
again. Both are a match over all members, and the first arm that accepts a value gives the result.
The checks compare the names of members and no keys; so two members share a key where one of them
overrides its name with what the other has, and then the second of them is never looked up.
-/

namespace ClientGen

/-! ## The value of a match -/

/-- Whether the value of an expression, a path or a literal, is matched by a pattern that binds no
name. -/
def Pattern.accepts : Pattern → Expr → Bool
  | .source text, .source path => text == "_" || text == path
  | .source text, .literal _ => text == "_"
  | .literal s, .literal value => s == value
  | _, _ => false

/-- The value that the first arm gives which accepts the subject. -/
def selected? (subject : Expr) : List Arm → Option Expr
  | [] => none
  | .value p e :: rest => if p.accepts subject then some e else selected? subject rest
  | _ :: rest => selected? subject rest

/-- The value that the body of a function gives for its argument, where it is a match over the
argument or leaves the argument alone. -/
def valueFor? (argument : Expr) : List Stmt → Option Expr
  | [.matchOn _ arms] => selected? argument arms
  | [.bind "_" _, .result e] => some e
  | _ => none

def Associated.body? (name : String) : Associated → Option (List Stmt)
  | .function _ _ signature body => if signature.name = name then some body else none
  | .constant .. => none

def Item.body? (name : String) : Item → Option (List Stmt)
  | .impl none _ members => members.findSome? (Associated.body? name)
  | _ => none

namespace Shape

/-- The value of a function of the type of the keys. -/
def keyFunction? (s : Shape) (name : String) (argument : Expr) : Option Expr :=
  (s.codingKeyItems.findSome? (Item.body? name)).bind (valueFor? argument)

/-- The value of the text of a key, as an encoder makes it from a variant. -/
def keyText? (s : Shape) : Expr → Option Expr
  | .method (.method (.source path) "as_str" []) "to_string" [] =>
    (s.codingKeys.find? fun k => s!"{s.codingKeysName}::{k.variant}" == path).bind fun k =>
      s.keyFunction? "as_str" k.path
  | _ => none

/-- The keys beside each other in the objects that the shape has on the wire: those of the members,
or those of the parts of an entry. -/
def containerKeys (s : Shape) : List String :=
  match s.kind with
  | .structure _ | .union _ => s.codingKeys.map (·.wire)
  | .map k v => if s.traits.isWrapped then [k.wireName, v.wireName] else []
  | .list _ | .set _ | .primitive _ | .enum _ => []

/-- No key that overrides the name of a member is the key of another member, and the parts of an
entry have different keys. -/
def OverridesApart (s : Shape) : Prop :=
  match s.kind with
  | .structure members | .union members => ∀ a ∈ members, ∀ b ∈ members, a ≠ b →
      ∀ key, a.traits.jsonName? = some key → key ≠ b.wireName
  | .map k v => s.traits.isWrapped = true → k.wireName ≠ v.wireName
  | .list _ | .set _ | .primitive _ | .enum _ => True

end Shape

/-! ## Lookups in a table -/

section

variable {α β : Type} [BEq β] [LawfulBEq β] {f : α → β} {l : List α}

/-- Each entry is found under its own key exactly if no two have the same. -/
theorem find?_eq_self_iff :
    (∀ a ∈ l, l.find? (fun b => f b == f a) = some a) ↔ ∀ a ∈ l, ∀ b ∈ l, f a = f b → a = b := by
  constructor
  · intro h a ha b hb hsame
    have hfirst := h a ha
    rw [hsame, h b hb] at hfirst
    exact (Option.some.inj hfirst).symm
  · intro h a ha
    cases hfind : l.find? fun b => f b == f a with
    | none => exact absurd (beq_self_eq_true (f a)) (List.find?_eq_none.1 hfind a ha)
    | some b =>
      have hb := List.mem_of_find?_eq_some hfind
      have hsame : f b = f a := by simpa using List.find?_some hfind
      rw [h b hb a ha hsame]

end

section

variable {α : Type} (value : α → Expr) (rest : List Arm)

/-- A table from literals gives what stands in its first row with the literal. -/
theorem selected?_literals (key : α → String) (rows : List α) (wire : String) :
    selected? (.literal wire) (rows.map (fun a => Arm.value (.literal (key a)) (value a)) ++ rest) =
      ((rows.find? (key · == wire)).map value).or (selected? (.literal wire) rest) := by
  induction rows with
  | nil => simp
  | cons a rows ih =>
    rw [List.map_cons, List.cons_append, selected?, List.find?_cons, ih]
    by_cases hwire : (key a == wire) = true
    · simp [Pattern.accepts, hwire]
    · simp [Pattern.accepts, hwire]

/-- A table from variants gives what stands in the first row with the variant. -/
theorem selected?_variants (variant : α → String) (rows : List α) (name : String) :
    selected? (.source s!"Self::{name}")
        (rows.map (fun a => Arm.value (.source s!"Self::{variant a}") (value a)) ++ rest) =
      ((rows.find? (variant · == name)).map value).or
        (selected? (.source s!"Self::{name}") rest) := by
  induction rows with
  | nil => simp
  | cons a rows ih =>
    have hwildcard : (s!"Self::{variant a}" == "_") = false := by
      rw [beq_eq_false_iff_ne]
      intro h
      have hhead := congrArg (fun t => t.toList.head?) h
      simp [toString] at hhead
    have haccepts : (Pattern.source s!"Self::{variant a}").accepts (.source s!"Self::{name}") =
        (variant a == name) := by
      rw [Pattern.accepts, hwildcard, Bool.false_or, Bool.eq_iff_iff]
      simp [toString]
    rw [List.map_cons, List.cons_append, selected?, haccepts, List.find?_cons, ih]
    cases variant a == name <;> rfl

end

namespace Shape

variable {s : Shape}

theorem keyFunction?_asStr (argument : Expr) :
    s.keyFunction? "as_str" argument = selected? argument s.asStrArms := rfl

theorem keyFunction?_fromWire (wire : String) : s.keyFunction? "from_wire" (.literal wire) =
    some (((s.codingKeys.find? (·.wire == wire)).map fun k => .call "Some" [k.path]).getD
      (.source "None")) := by
  have hbody : s.codingKeyItems.findSome? (Item.body? "from_wire") =
      some (if s.members.isEmpty then [.bind "_" (.source "key"), .result (.source "None")]
        else [.matchOn (.source "key") s.fromWireArms]) := rfl
  rw [keyFunction?, hbody, Option.bind_some]
  by_cases hempty : s.members.isEmpty = true
  · rw [if_pos hempty, codingKeys, List.isEmpty_iff.1 hempty]
    rfl
  · rw [if_neg hempty, valueFor?, fromWireArms, selected?_literals]
    cases s.codingKeys.find? (·.wire == wire) <;> rfl

theorem keyFunction?_path (hvariants : (s.codingKeys.map (·.variant)).Nodup) {k : CodingKey}
    (hk : k ∈ s.codingKeys) : s.keyFunction? "as_str" k.path = some (.literal k.wire) := by
  have hfind := find?_eq_self_iff.2
    ((List.nodup_map_iff_inj_on (.of_map _ hvariants)).1 hvariants) k hk
  rw [keyFunction?_asStr, asStrArms, ← List.append_nil (s.codingKeys.map _), CodingKey.path,
    selected?_variants, hfind]
  rfl

/-- The key of each member is read back exactly if the keys have wire names of their own. -/
theorem keyFunction?_literal_iff (hvariants : (s.codingKeys.map (·.variant)).Nodup) :
    (∀ k ∈ s.codingKeys,
      s.keyFunction? "from_wire" (.literal k.wire) = some (.call "Some" [k.path])) ↔
      (s.codingKeys.map (·.wire)).Nodup := by
  have hkeys : s.codingKeys.Nodup := .of_map _ hvariants
  have hinj := (List.nodup_map_iff_inj_on hkeys).1 hvariants
  rw [List.nodup_map_iff_inj_on hkeys, ← find?_eq_self_iff]
  refine forall₂_congr fun k hk => ?_
  rw [keyFunction?_fromWire]
  cases hfind : s.codingKeys.find? (·.wire == k.wire) with
  | none => exact absurd (beq_self_eq_true k.wire) (List.find?_eq_none.1 hfind k hk)
  | some k' =>
    have hk' := List.mem_of_find?_eq_some hfind
    constructor
    · intro h
      have hpath : k'.path = k.path := by simpa using h
      have hvariant : k'.variant = k.variant := by simpa [CodingKey.path, toString] using hpath
      rw [hinj k' hk' k hk hvariant]
    · intro h
      rw [Option.some.inj h]
      rfl

theorem keyText?_keyExpr (hvariants : (s.codingKeys.map (·.variant)).Nodup) {e : Member}
    (he : e ∈ s.members) : s.keyText? (s.keyExpr e).toOwned = some (.literal e.wireName) := by
  have hk : CodingKey.ofMember e ∈ s.codingKeys := List.mem_map_of_mem he
  have hfind : s.codingKeys.find? (fun k => s!"{s.codingKeysName}::{k.variant}" ==
      s.codingKeyPath e) = some (.ofMember e) := by
    have hpath : ∀ k : CodingKey, (s!"{s.codingKeysName}::{k.variant}" == s.codingKeyPath e) =
        (k.variant == (CodingKey.ofMember e).variant) := fun k => by
      rw [codingKeyPath, Bool.eq_iff_iff]
      simp [toString, CodingKey.ofMember]
    have hfirst := find?_eq_self_iff.2
      ((List.nodup_map_iff_inj_on (.of_map _ hvariants)).1 hvariants) (CodingKey.ofMember e) hk
    simp only [hpath]
    exact hfirst
  rw [keyExpr, Expr.toOwned, keyText?, hfind, Option.bind_some, keyFunction?_path hvariants hk]
  rfl

/-! ## Members that are accepted -/

theorem nodup_typeNames (h : s.checkMembers = .ok ()) :
    (s.members.map fun e => Naming.typeName e.name).Nodup :=
  List.pairwise_map.2 ((pairwise_of_checkMembers h).imp fun hab => hab.type)

theorem nodup_variants (h : s.checkMembers = .ok ()) : (s.codingKeys.map (·.variant)).Nodup := by
  have hnames : s.codingKeys.map (·.variant) = s.members.map fun e => Naming.typeName e.name := by
    simp only [codingKeys, List.map_map, Function.comp_def, CodingKey.ofMember]
  rw [hnames]
  exact nodup_typeNames h

/-- Members that are accepted have keys of their own exactly if no override is the key of another
one. -/
theorem nodup_wireNames_iff {members : List Member} (h : members.Pairwise Member.NamedApart) :
    (members.map Member.wireName).Nodup ↔ ∀ a ∈ members, ∀ b ∈ members, a ≠ b →
      ∀ key, a.traits.jsonName? = some key → key ≠ b.wireName := by
  have hnames : (members.map Member.name).Nodup := List.pairwise_map.2 (h.imp fun hab => hab.name)
  have hmembers : members.Nodup := .of_map _ hnames
  have hname := (List.nodup_map_iff_inj_on hmembers).1 hnames
  rw [List.nodup_map_iff_inj_on hmembers]
  constructor
  · rintro hinj a ha b hb hne key hkey rfl
    have hwire : a.wireName = b.wireName := by
      rw [Member.wireName, hkey]
      rfl
    exact hne (hinj a ha b hb hwire)
  · intro hapart a ha b hb hwire
    by_contra hne
    -- Two plain keys are two names; every other pair has an override in it.
    cases hfirst : a.traits.jsonName? with
    | some key =>
      have hkey : a.wireName = key := by
        rw [Member.wireName, hfirst]
        rfl
      exact hapart a ha b hb hne key hfirst (hkey.symm.trans hwire)
    | none =>
      have hplain : a.wireName = a.name := by
        rw [Member.wireName, hfirst]
        rfl
      cases hsecond : b.traits.jsonName? with
      | some key =>
        have hkey : b.wireName = key := by
          rw [Member.wireName, hsecond]
          rfl
        exact hapart b hb a ha (Ne.symm hne) key hsecond (hkey.symm.trans hwire.symm)
      | none =>
        have hplain' : b.wireName = b.name := by
          rw [Member.wireName, hsecond]
          rfl
        exact hne (hname a ha b hb (hplain.symm.trans (hwire.trans hplain')))

theorem nodup_containerKeys_iff (h : s.checkMembers = .ok ()) :
    s.containerKeys.Nodup ↔ s.OverridesApart := by
  have hpairwise := pairwise_of_checkMembers h
  unfold members at hpairwise
  unfold containerKeys OverridesApart
  cases hkind : s.kind with
  | «structure» ms | union ms =>
    rw [hkind] at hpairwise
    have hkeys : s.codingKeys.map (·.wire) = ms.map Member.wireName := by
      simp [codingKeys, members, hkind, CodingKey.ofMember, Function.comp_def]
    rw [hkeys]
    exact nodup_wireNames_iff hpairwise
  | map k v => cases s.traits.isWrapped <;> simp
  | list _ | set _ | primitive _ | enum _ => simp

end Shape

namespace Model

variable {m : Model}

theorem checkMembers_ok {service : ShapeId} {ids : List ShapeId} {s : Shape}
    (hvalid : m.validate service = .ok ()) (hids : m.reachable service = .ok ids)
    (hs : m.IsAmong ids s) : s.checkMembers = .ok () := by
  obtain ⟨_, -, hvalid⟩ := bind_eq_ok.1 hvalid
  obtain ⟨⟨⟩, -, hvalid⟩ := bind_eq_ok.1 hvalid
  rw [ok_bind hids] at hvalid
  obtain ⟨⟨⟩, hshapes, -⟩ := bind_eq_ok.1 hvalid
  exact (checkShape_ok hs.shape (forM_eq_ok hshapes s.id hs.mem)).1

/-- Each entry of a wrapped map gets the keys of its parts, and no others. -/
theorem mem_entry_iff {s : Shape} {k v : Member} {p : CodecPath} {source : Expr} {binding : String}
    {stmts : List Stmt} (hs : m.shape? s.id = some s) (hkind : s.kind = .map k v)
    (hwrapped : s.traits.isWrapped = true) (hsource : source.Lacks Expr.write?)
    (h : m.encode p [] s.id source binding = .ok stmts) (key : String) :
    (∃ a, (1, a) ∈ writesOf 0 stmts ∧ a.object = .source (p.temp "entry") ∧
      a.key = (Expr.literal key).toOwned) ↔ key ∈ s.containerKeys := by
  have helement : s.element? = some v := by rw [Shape.element?, hkind]
  obtain ⟨around, inner, haround, hinner, rfl⟩ := encode_collection_ok hs helement h
  obtain ⟨keyText, hkeyText, hmem⟩ := mem_writes_collectionEncoder helement haround hsource
  obtain ⟨collections, leaf, hexpands⟩ := encode_ok_iff.1 ⟨inner, hinner⟩
  have hdeeper := followsKeys_encode 1 hexpands.nesting (lacks_source _).2 hinner
  -- The code for the values has its containers inside the wrapper, at deeper levels.
  have hinside : ∀ a, a.key = (Expr.literal key).toOwned → (1, a) ∉ writesOf 1 inner := by
    intro a hkey ha
    obtain ⟨i, _, hlevel, -⟩ := (hdeeper.keys 1 key).1 ⟨a, ha, hkey⟩
    omega
  have hobjects : p.temp "wrapper" ≠ p.temp "entry" := by
    simp [CodecPath.temp, toString]
  have hown : s.containerKeys = [k.wireName, v.wireName] := by
    rw [Shape.containerKeys, hkind]
    exact if_pos hwrapped
  have howns : ∀ a, (a ∈ s.ownWrites p keyText ∧ a.object = .source (p.temp "entry")) ↔
      a = ⟨"insert", .source (p.temp "entry"), (Expr.literal k.wireName).toOwned⟩ ∨
      a = ⟨"insert", .source (p.temp "entry"), (Expr.literal v.wireName).toOwned⟩ := by
    intro a
    rw [Shape.ownWrites, hkind, if_pos hwrapped]
    simp only [List.mem_cons, List.not_mem_nil, or_false]
    constructor
    · rintro ⟨rfl | rfl | rfl, hobject⟩
      · exact .inl rfl
      · exact .inr rfl
      · exact absurd (Expr.source.inj hobject) hobjects
    · rintro (rfl | rfl)
      · exact ⟨.inl rfl, rfl⟩
      · exact ⟨.inr (.inl rfl), rfl⟩
  rw [hown]
  constructor
  · rintro ⟨a, ha, hobject, hkey⟩
    rcases (hmem _).1 ha with ⟨a', ha', heq⟩ | ha
    · obtain ⟨-, rfl⟩ := Prod.mk.inj heq
      rcases (howns a).1 ⟨ha', hobject⟩ with rfl | rfl <;>
        simp [Expr.toOwned] at hkey <;> simp [hkey]
    · exact absurd ha (hinside a hkey)
  · intro hkey
    have hwritten : ∃ a ∈ s.ownWrites p keyText, a.object = .source (p.temp "entry") ∧
        a.key = (Expr.literal key).toOwned := by
      rcases List.mem_cons.1 hkey with rfl | hkey
      · exact ⟨_, ((howns _).2 (.inl rfl)).1, rfl, rfl⟩
      · obtain rfl := List.mem_singleton.1 hkey
        exact ⟨_, ((howns _).2 (.inr rfl)).1, rfl, rfl⟩
    obtain ⟨a, ha, hobject, hkey⟩ := hwritten
    exact ⟨a, (hmem _).2 (.inl ⟨a, ha, rfl⟩), hobject, hkey⟩

/-- In a model that passes the checks, the keys beside each other in an object are pairwise
different exactly if the overrides are apart. Each variant is written out as the key of its member;
and exactly if these differ, each key is read back as its variant. What the encoder of a structure
inserts has the keys of the members, in their order, and what that of a wrapped map inserts into an
entry has the keys of its parts. -/
theorem nodup_keys_iff {service : ShapeId} {ids : List ShapeId} {s : Shape}
    (hvalid : m.validate service = .ok ()) (hids : m.reachable service = .ok ids)
    (hs : m.IsAmong ids s) :
    (s.containerKeys.Nodup ↔ s.OverridesApart) ∧
      (∀ k ∈ s.codingKeys, s.keyFunction? "as_str" k.path = some (.literal k.wire)) ∧
      ((∀ k ∈ s.codingKeys,
        s.keyFunction? "from_wire" (.literal k.wire) = some (.call "Some" [k.path])) ↔
        (s.codingKeys.map (·.wire)).Nodup) ∧
      (∀ body, m.structureEncoder s = .ok body →
        (keysOn "container" (writesOf 0 body)).map s.keyText? =
          s.codingKeys.map fun k => some (.literal k.wire)) ∧
      ∀ p source binding stmts, (∃ k v, s.kind = .map k v) → s.traits.isWrapped = true →
        source.Lacks Expr.write? → m.encode p [] s.id source binding = .ok stmts →
        ∀ key, (∃ a, (1, a) ∈ writesOf 0 stmts ∧ a.object = .source (p.temp "entry") ∧
          a.key = (Expr.literal key).toOwned) ↔ key ∈ s.containerKeys := by
  have hmembers := checkMembers_ok hvalid hids hs
  have hvariants := Shape.nodup_variants hmembers
  refine ⟨Shape.nodup_containerKeys_iff hmembers, fun k hk => Shape.keyFunction?_path hvariants hk,
    Shape.keyFunction?_literal_iff hvariants, fun body hbody => ?_, ?_⟩
  · rw [keysOn_structureEncoder hbody, Shape.codingKeys, List.map_map, List.map_map]
    exact List.map_congr_left fun e he => Shape.keyText?_keyExpr hvariants he
  · rintro p source binding stmts ⟨k, v, hkind⟩ hwrapped hsource hencode
    exact mem_entry_iff hs.shape hkind hwrapped hsource hencode

/-! ## A structure of two members -/

/-- The structure of the model below: the key of its first member is given, the second one has its
name as its key, and both hold another such structure. -/
def keyedItem (key : String) : Shape :=
  ⟨⟨"store", "Item"⟩, .structure [⟨"first", ⟨"store", "Item"⟩, false, [.jsonName key]⟩,
    ⟨"name", ⟨"store", "Item"⟩, false, []⟩], []⟩

def keyedStore (key : String) : Model where
  shapes := ⟨[keyedItem key], List.pairwise_singleton _ _⟩
  operations := ⟨[⟨⟨"store", "Put"⟩, some ⟨"store", "Item"⟩, none, none, none⟩],
    List.pairwise_singleton _ _⟩
  services := ⟨[⟨⟨"store", "Store"⟩, "1", [⟨"store", "Put"⟩], none, none⟩],
    List.pairwise_singleton _ _⟩

section

variable (key : String)

theorem shape?_keyedStore : (keyedStore key).shape? ⟨"store", "Item"⟩ = some (keyedItem key) := by
  simp [shape?, Catalog.get?, keyedStore, keyedItem, Identified.idOf]

theorem codingKeys_keyedItem : (keyedItem key).codingKeys =
    [⟨Naming.typeName "first", key, "first"⟩, ⟨Naming.typeName "name", "name", "name"⟩] := rfl

theorem reachable_keyedStore :
    (keyedStore key).reachable ⟨"store", "Store"⟩ = .ok [⟨"store", "Item"⟩] := by
  change (keyedStore key).closure [] [(⟨"store", "Item"⟩, .operation _)] = _
  rw [closure_new List.not_mem_nil (shape?_keyedStore key)]
  change (keyedStore key).closure [⟨"store", "Item"⟩] [(⟨"store", "Item"⟩, .member _ _),
    (⟨"store", "Item"⟩, .member _ _)] = _
  rw [closure_seen (by simp), closure_seen (by simp), closure_nil]

theorem isAmong_keyedItem : (keyedStore key).IsAmong [⟨"store", "Item"⟩] (keyedItem key) :=
  isAmong_of_shape? (by simp) (shape?_keyedStore key)

theorem validate_keyedStore : (keyedStore key).validate ⟨"store", "Store"⟩ = .ok () := by
  have hitem : ∀ from_, (keyedStore key).resolveShape ⟨"store", "Item"⟩ from_ =
      .ok (keyedItem key) := fun _ => resolveShape_eq_ok.2 (shape?_keyedStore key)
  have hinput : (keyedStore key).checkOperation ⟨"store", "Store"⟩ ⟨"store", "Put"⟩ = .ok () := by
    have hrole : (keyedStore key).checkRole ⟨"store", "Put"⟩ .input (some ⟨"store", "Item"⟩) =
        .ok () := by
      rw [checkRole, ok_bind (hitem _)]
      rfl
    have hoperation : (keyedStore key).operation? ⟨"store", "Put"⟩ =
        some ⟨⟨"store", "Put"⟩, some ⟨"store", "Item"⟩, none, none, none⟩ := by
      simp [operation?, Catalog.get?, keyedStore, Identified.idOf]
    rw [checkOperation, hoperation]
    exact ok_bind hrole _
  have hmembers : (keyedItem key).checkMembers = .ok () := by
    have hfields : Naming.fieldName "first" ≠ Naming.fieldName "name" := by decide +kernel
    have htypes : Naming.typeName "first" ≠ Naming.typeName "name" := by decide +kernel
    simp [Shape.checkMembers, Shape.members, keyedItem, checkMembersFrom, hfields, htypes]
  have hshape : (keyedStore key).checkShape ⟨"store", "Item"⟩ = .ok () := by
    rw [checkShape, ok_bind (hitem _), ok_bind hmembers]
    rfl
  have hservice : (keyedStore key).resolveService ⟨"store", "Store"⟩ =
      .ok ⟨⟨"store", "Store"⟩, "1", [⟨"store", "Put"⟩], none, none⟩ :=
    resolveService_eq_ok.2 (by simp [service?, Catalog.get?, keyedStore, Identified.idOf])
  have hchecks : (keyedStore key).PassesLocalChecks ⟨"store", "Store"⟩
      ⟨⟨"store", "Store"⟩, "1", [⟨"store", "Put"⟩], none, none⟩ [⟨"store", "Item"⟩] :=
    ⟨hservice, forM_of_forall_ok (List.forall_mem_singleton.2 hinput), reachable_keyedStore key,
      forM_of_forall_ok (List.forall_mem_singleton.2 hshape)⟩
  refine hchecks.validate_of_leaves fun id hid t ht => ?_
  obtain rfl := List.mem_singleton.1 hid
  obtain rfl := Option.some.inj ((shape?_keyedStore key).symm.trans ht)
  exact ⟨rfl, by simp [Shape.members, keyedItem]⟩

end

/-- With a key that no other member has, every key is read back. -/
theorem nodup_keys_iff_title :
    let m := keyedStore "title"
    let s := keyedItem "title"
    m.validate ⟨"store", "Store"⟩ = .ok () ∧ m.reachable ⟨"store", "Store"⟩ = .ok [s.id] ∧
      m.IsAmong [s.id] s ∧ s.containerKeys.Nodup ∧
      s.keyFunction? "from_wire" (.literal "title") =
        some (.call "Some" [(CodingKey.mk (Naming.typeName "first") "title" "first").path]) := by
  intro m s
  obtain ⟨hcontainer, -, hread, -⟩ := nodup_keys_iff (validate_keyedStore "title")
    (reachable_keyedStore "title") (isAmong_keyedItem "title")
  have hapart : s.OverridesApart := by
    intro a ha b hb hne key hkey
    simp only [List.mem_cons, List.not_mem_nil, or_false] at ha hb
    rcases ha with rfl | rfl
    · obtain rfl := Option.some.inj hkey
      rcases hb with rfl | rfl
      · exact absurd rfl hne
      · decide
    · cases hkey
  have hnodup := hcontainer.2 hapart
  have hfirst := hread.2 hnodup ⟨Naming.typeName "first", "title", "first"⟩
    (by rw [codingKeys_keyedItem]; exact List.mem_cons_self)
  exact ⟨validate_keyedStore _, reachable_keyedStore _, isAmong_keyedItem _, hnodup, hfirst⟩

/-- Where the first member has the name of the second one as its key, the model passes the checks,
both keys are written out as the same, and this is read back as the first of them. -/
theorem not_nodup_keys_name :
    let m := keyedStore "name"
    let s := keyedItem "name"
    m.validate ⟨"store", "Store"⟩ = .ok () ∧ m.reachable ⟨"store", "Store"⟩ = .ok [s.id] ∧
      m.IsAmong [s.id] s ∧ ¬ s.containerKeys.Nodup ∧
      ∃ first second, s.codingKeys = [first, second] ∧ first.path ≠ second.path ∧
        s.keyFunction? "as_str" first.path = some (.literal "name") ∧
        s.keyFunction? "as_str" second.path = some (.literal "name") ∧
        s.keyFunction? "from_wire" (.literal "name") = some (.call "Some" [first.path]) := by
  intro m s
  have hshared : s.containerKeys = ["name", "name"] := rfl
  have hkeys := codingKeys_keyedItem "name"
  have hvariants := Shape.nodup_variants (checkMembers_ok (validate_keyedStore "name")
    (reachable_keyedStore "name") (isAmong_keyedItem "name"))
  have hpaths : (CodingKey.mk (Naming.typeName "first") "name" "first").path ≠
      (CodingKey.mk (Naming.typeName "name") "name" "name").path := by
    have htypes : Naming.typeName "first" ≠ Naming.typeName "name" := by decide +kernel
    simpa [CodingKey.path, toString] using htypes
  have hwritten := fun k (hk : k ∈ s.codingKeys) => Shape.keyFunction?_path hvariants hk
  have hread := Shape.keyFunction?_fromWire (s := s) "name"
  rw [hkeys] at hwritten hread
  refine ⟨validate_keyedStore _, reachable_keyedStore _, isAmong_keyedItem _, ?_, _, _, hkeys,
    hpaths, hwritten _ List.mem_cons_self, hwritten _ (List.mem_cons_of_mem _ List.mem_cons_self),
    hread⟩
  rw [hshared]
  decide

end Model

end ClientGen
