import ClientGen.Proofs.Codec.KeyTables
import ClientGen.Proofs.Codec.Locals
import ClientGen.Proofs.Crate.Faults
import ClientGen.Proofs.Crate.TypeDefinitions
import ClientGen.Proofs.Symbol.TypeNames

/-!
# The variants of a union

The type of a union has a variant for each member and one more for the keys that are not known. Its
decoder makes these variants, and its encoder matches them, one by one in their order. The checks
keep the variants of the members apart; the one more has a fixed name, which no check looks at.
-/

namespace ClientGen

/-! ## Variants in a type and in code -/

/-- The names of the variants that an item defines. -/
def Item.variants : Item → List String
  | .enum _ _ _ variants => variants.map (·.name)
  | .struct .. | .interface .. | .impl .. | .need _ => []

/-- The names of the variants of a union: those of its members and the one more. -/
def Shape.unionVariants (s : Shape) : List String :=
  s.members.map (fun e => Naming.typeName e.name) ++ ["Unknown"]

namespace Arm

/-- The arm matches a variant of the type itself, whatever it holds. -/
def Matches (variant : String) (arm : Arm) : Prop :=
  ∃ (p : Pattern) (held : String), p.text = s!"Self::{variant}({held})" ∧
    ((∃ body, arm = .block p body) ∨ arm = .skip p)

/-- The value of the arm is a variant of the type itself, as a success. -/
def Makes (variant : String) (arm : Arm) : Prop :=
  ∃ p held, arm = .value p (.call "Ok" [.call s!"Self::{variant}" [held]]) ∨
    ∃ inner, arm = .block p (inner ++ [.result (.call "Ok" [.call s!"Self::{variant}" [held]])])

end Arm

namespace Model

variable {m : Model} {s : Shape}

theorem variants_unionItem {type : Item} (h : m.unionItem s = .ok type) :
    type.variants = s.unionVariants := by
  obtain ⟨variants, hvariants, h⟩ := bind_eq_ok.1 h
  obtain rfl := Except.ok.inj h
  have hmembers : variants.map (·.name) = s.members.map fun e => Naming.typeName e.name := by
    refine map_of_mapM (fun e v hv => ?_) hvariants
    obtain ⟨symbol, -, hv⟩ := bind_eq_ok.1 hv
    rw [← Except.ok.inj hv]
  rw [Item.variants, List.map_append, hmembers]
  rfl

/-- The decoder of a union makes its variants, one by one. -/
theorem makes_unionDecoder {body : List Stmt} (h : m.unionDecoder s = .ok body) :
    ∃ subject arms, .matchOn subject arms ∈ body ∧ List.Forall₂ Arm.Makes s.unionVariants arms := by
  obtain ⟨arms, harms, h⟩ := bind_eq_ok.1 h
  obtain rfl := Except.ok.inj h
  have hmembers : List.Forall₂ Arm.Makes (s.members.map fun e => Naming.typeName e.name) arms := by
    refine List.forall₂_map_left_iff.2 ((forall₂_of_mapM harms).imp fun e arm harm => ?_)
    obtain ⟨symbol, -, harm⟩ := bind_eq_ok.1 harm
    obtain ⟨inner, -, harm⟩ := bind_eq_ok.1 harm
    exact ⟨_, _, .inr ⟨inner, (Except.ok.inj harm).symm⟩⟩
  exact ⟨_, _, .tail _ (.tail _ (.tail _ (.head _))),
    List.rel_append hmembers (.cons ⟨_, _, .inl rfl⟩ .nil)⟩

/-- The encoder of a union matches its variants, one by one. -/
theorem matches_unionEncoder {body : List Stmt} (h : m.unionEncoder s = .ok body) :
    ∃ arms, .matchOn (.source "self") arms ∈ body ∧
      List.Forall₂ Arm.Matches s.unionVariants arms := by
  obtain ⟨arms, harms, h⟩ := bind_eq_ok.1 h
  obtain rfl := Except.ok.inj h
  have hmembers : List.Forall₂ Arm.Matches (s.members.map fun e => Naming.typeName e.name) arms := by
    refine List.forall₂_map_left_iff.2 ((forall₂_of_mapM harms).imp fun e arm harm => ?_)
    obtain ⟨inner, -, harm⟩ := bind_eq_ok.1 harm
    exact ⟨_, _, rfl, .inl ⟨_, (Except.ok.inj harm).symm⟩⟩
  exact ⟨_, .tail _ (.head _), List.rel_append hmembers (.cons ⟨_, "_", rfl, .inr rfl⟩ .nil)⟩

/-- The variants of a union whose members are accepted are apart, unless that of a member has the
name of the one more. -/
theorem nodup_unionVariants (h : s.checkMembers = .ok ()) :
    s.unionVariants.Nodup ↔ ∀ e ∈ s.members, Naming.typeName e.name ≠ "Unknown" := by
  rw [Shape.unionVariants, ← List.concat_eq_append, List.nodup_concat,
    and_iff_left (Shape.nodup_typeNames h)]
  simp

/-- The type and the codec of a union are items of the module. -/
theorem mem_items_of_union {ids : List ShapeId} {t : Module} (hs : m.IsAmong ids s)
    (hunion : s.isUnion = true) (ht : m.typesModule ids = .ok t) :
    ∃ type codec, m.unionItem s = .ok type ∧ type ∈ t.items ∧ m.unionCodec s = .ok codec ∧
      codec ∈ t.items := by
  obtain ⟨items, hitems, ht⟩ := bind_eq_ok.1 ht
  obtain rfl := Except.ok.inj ht
  obtain ⟨own, hown, hshape⟩ := exists_of_mem_mapM hitems s.id hs.mem
  obtain ⟨members, hkind⟩ : ∃ members, s.kind = .union members := by
    unfold Shape.isUnion at hunion
    cases hkind : s.kind with
    | union members => exact ⟨members, rfl⟩
    | _ =>
      rw [hkind] at hunion
      cases hunion
  rw [shapeItems, ok_bind (resolveShape_eq_ok.2 hs.shape), hkind] at hshape
  obtain ⟨type, htype, hshape⟩ := bind_eq_ok.1 hshape
  obtain ⟨codec, hcodec, hshape⟩ := bind_eq_ok.1 hshape
  obtain rfl := Except.ok.inj hshape
  exact ⟨type, codec, htype, List.mem_flatten.2 ⟨_, hown, by simp⟩, hcodec,
    List.mem_flatten.2 ⟨_, hown, by simp⟩⟩

/-- The module of the types has a type and a codec for each of its unions, and these go by the same
variants: the decoder makes those of the type, and the encoder matches them. Where the checks are
passed, they are pairwise different exactly if no member has the name of the one more. -/
theorem variants_of_union {service : ShapeId} {ids : List ShapeId} {t : Module}
    (hvalid : m.validate service = .ok ()) (hids : m.reachable service = .ok ids)
    (hs : m.IsAmong ids s) (hunion : s.isUnion = true) (ht : m.typesModule ids = .ok t) :
    ∃ type codec decoderDoc decoder encoderDoc encoder,
      type ∈ t.items ∧ type.definedType? = some s.generatedName ∧
      codec ∈ t.items ∧ codec = .impl none s.generatedName [
        .function decoderDoc true decodeSignature decoder,
        .function encoderDoc true encodeSignature encoder] ∧
      type.variants = s.members.map (fun e => Naming.typeName e.name) ++ ["Unknown"] ∧
      (∃ subject arms, .matchOn subject arms ∈ decoder ∧
        List.Forall₂ Arm.Makes type.variants arms) ∧
      (∃ arms, .matchOn (.source "self") arms ∈ encoder ∧
        List.Forall₂ Arm.Matches type.variants arms) ∧
      (type.variants.Nodup ↔ ∀ e ∈ s.members, Naming.typeName e.name ≠ "Unknown") := by
  obtain ⟨type, codec, htype, htypeItem, hcodec, hcodecItem⟩ := mem_items_of_union hs hunion ht
  obtain ⟨decoder, hdecoder, hcodec⟩ := bind_eq_ok.1 hcodec
  obtain ⟨encoder, hencoder, hcodec⟩ := bind_eq_ok.1 hcodec
  have hvariants := variants_unionItem htype
  refine ⟨type, codec, _, decoder, _, encoder, htypeItem, definedType?_unionItem htype, hcodecItem,
    (Except.ok.inj hcodec).symm, hvariants, ?_⟩
  rw [hvariants]
  exact ⟨makes_unionDecoder hdecoder, matches_unionEncoder hencoder,
    nodup_unionVariants (checkMembers_ok hvalid hids hs)⟩

/-! ## A structure and a union -/

/-- The input of the model below. -/
def pickItem : Shape :=
  ⟨⟨"store", "Item"⟩, .structure [⟨"pick", ⟨"store", "Pick"⟩, false, []⟩], []⟩

/-- A union with one member of some name. -/
def pick (name : String) : Shape :=
  ⟨⟨"store", "Pick"⟩, .union [⟨name, ⟨"store", "Item"⟩, false, []⟩], []⟩

def pickOperation : Operation := ⟨⟨"store", "Put"⟩, some ⟨"store", "Item"⟩, none, none, none⟩

def pickService : Service := ⟨⟨"store", "Store"⟩, "1", [⟨"store", "Put"⟩], none, none⟩

def pickModel (name : String) : Model where
  shapes := ⟨[pickItem, pick name], List.pairwise_pair.2
    (show (⟨"store", "Item"⟩ : ShapeId) < ⟨"store", "Pick"⟩ by decide)⟩
  operations := ⟨[pickOperation], List.pairwise_singleton _ _⟩
  services := ⟨[pickService], List.pairwise_singleton _ _⟩

def pickShapes : List ShapeId := [⟨"store", "Item"⟩, ⟨"store", "Pick"⟩]

theorem mem_pickShapes {id : ShapeId} :
    id ∈ pickShapes ↔ id = ⟨"store", "Item"⟩ ∨ id = ⟨"store", "Pick"⟩ := by
  simp [pickShapes]

section

variable (name : String)

theorem shape?_pickItem : (pickModel name).shape? ⟨"store", "Item"⟩ = some pickItem := rfl

theorem shape?_pick : (pickModel name).shape? ⟨"store", "Pick"⟩ = some (pick name) := rfl

theorem isAmong_pick : (pickModel name).IsAmong pickShapes (pick name) :=
  isAmong_of_shape? (by simp [pickShapes]) (shape?_pick name)

theorem reachable_pickModel : (pickModel name).reachable pickService.id = .ok pickShapes := by
  have hinsert : SortedSet.insert (⟨"store", "Pick"⟩ : ShapeId) [⟨"store", "Item"⟩] =
      pickShapes := by decide
  change (pickModel name).closure [] [(⟨"store", "Item"⟩, .operation _)] = _
  rw [closure_new List.not_mem_nil (shape?_pickItem name)]
  change (pickModel name).closure [⟨"store", "Item"⟩] [(⟨"store", "Pick"⟩, .member _ _)] = _
  rw [closure_new (by decide) (shape?_pick name), hinsert]
  change (pickModel name).closure pickShapes [(⟨"store", "Item"⟩, .member _ _)] = _
  rw [closure_seen (by decide), closure_nil]

theorem validate_pickModel : (pickModel name).validate pickService.id = .ok () := by
  have hshapes : pickShapes.forM (pickModel name).checkShape = .ok () := rfl
  have hchecks : (pickModel name).PassesLocalChecks pickService.id pickService pickShapes :=
    ⟨rfl, rfl, reachable_pickModel name, hshapes⟩
  refine hchecks.validate_of_leaves fun id hid t ht => ?_
  obtain rfl | rfl := mem_pickShapes.1 hid
  · obtain rfl := Option.some.inj ((shape?_pickItem name).symm.trans ht)
    exact ⟨rfl, by simp [Shape.members, pickItem]⟩
  · obtain rfl := Option.some.inj ((shape?_pick name).symm.trans ht)
    exact ⟨rfl, by simp [Shape.members, pick]⟩

theorem exists_symbol_pickModel {id : ShapeId} (hid : id ∈ pickShapes) :
    ∃ symbol, (pickModel name).symbol modelNamespace id = .ok symbol := by
  obtain rfl | rfl := mem_pickShapes.1 hid
  · exact ⟨_, (symbol_shape (shape?_pickItem name)).trans rfl⟩
  · exact ⟨_, (symbol_shape (shape?_pick name)).trans rfl⟩

theorem exists_memberSymbol_pickModel {s : Shape} (hs : (pickModel name).IsAmong pickShapes s)
    {e : Member} (he : e ∈ s.members) :
    ∃ symbol, (pickModel name).memberSymbol modelNamespace s.id e = .ok symbol := by
  have hmember : e.fallback? = none ∧ e.target ∈ pickShapes := by
    obtain h | h := mem_pickShapes.1 hs.mem
    · obtain rfl := Option.some.inj ((shape?_pickItem name).symm.trans (h ▸ hs.shape))
      obtain rfl := List.mem_singleton.1 he
      exact ⟨rfl, mem_pickShapes.2 (.inr rfl)⟩
    · obtain rfl := Option.some.inj ((shape?_pick name).symm.trans (h ▸ hs.shape))
      obtain rfl := List.mem_singleton.1 he
      exact ⟨rfl, mem_pickShapes.2 (.inl rfl)⟩
  exact exists_memberSymbol hs.shape hmember.1 (exists_symbol_pickModel name hmember.2)

theorem exists_typesModule_pickModel : ∃ t, (pickModel name).typesModule pickShapes = .ok t := by
  obtain ⟨_, ids, -, hids, hsound, -⟩ := validate_ok (validate_pickModel name)
  obtain rfl := Except.ok.inj ((reachable_pickModel name).symm.trans hids)
  exact typesModule_ok hsound (fun _ hid => exists_symbol_pickModel name hid)
    fun _ hs _ he => exists_memberSymbol_pickModel name hs he

end

/-- The variants of a union with a member of another name are different. -/
theorem variants_of_union_first :
    let m := pickModel "first"
    ∃ t type, m.validate pickService.id = .ok () ∧ m.reachable pickService.id = .ok pickShapes ∧
      m.IsAmong pickShapes (pick "first") ∧ m.typesModule pickShapes = .ok t ∧ type ∈ t.items ∧
      type.variants = ["First", "Unknown"] ∧ type.variants.Nodup := by
  intro m
  obtain ⟨t, ht⟩ := exists_typesModule_pickModel "first"
  obtain ⟨type, -, -, -, -, -, htype, -, -, -, hvariants, -, -, hnodup⟩ :=
    variants_of_union (validate_pickModel "first") (reachable_pickModel "first")
      (isAmong_pick "first") rfl ht
  have hname : Naming.typeName "first" = "First" := by decide +kernel
  refine ⟨t, type, validate_pickModel _, reachable_pickModel _, isAmong_pick _, ht, htype, ?_,
    hnodup.2 ?_⟩
  · rw [hvariants, ← hname]
    rfl
  · refine List.forall_mem_singleton.2 ?_
    rw [hname]
    decide

/-- A union with a member `unknown` passes the checks, and its type defines one variant twice. -/
theorem not_nodup_variants_unknown :
    let m := pickModel "unknown"
    ∃ t type, m.validate pickService.id = .ok () ∧ m.reachable pickService.id = .ok pickShapes ∧
      m.IsAmong pickShapes (pick "unknown") ∧ m.typesModule pickShapes = .ok t ∧
      m.unionItem (pick "unknown") = .ok type ∧ type ∈ t.items ∧
      type.variants = ["Unknown", "Unknown"] ∧ ¬ type.variants.Nodup := by
  intro m
  obtain ⟨t, ht⟩ := exists_typesModule_pickModel "unknown"
  obtain ⟨type, codec, htype, hitem, -⟩ := mem_items_of_union (isAmong_pick "unknown") rfl ht
  have hname : Naming.typeName "unknown" = "Unknown" := by decide +kernel
  have hvariants : type.variants = ["Unknown", "Unknown"] := by
    rw [variants_unionItem htype, Shape.unionVariants, ← hname]
    rfl
  refine ⟨t, type, validate_pickModel _, reachable_pickModel _, isAmong_pick _, ht, htype,
    hitem, hvariants, ?_⟩
  rw [hvariants]
  decide

end Model

end ClientGen
