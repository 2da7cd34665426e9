import ClientGen.Proofs.Crate.FreeNames
import ClientGen.Proofs.Crate.Variants

/-!
# The variants of an enum

The type of an enum has a variant for each value and one more for the texts that are not known, and
two functions between its variants and the texts. Each is a match over all values, and the first arm
that accepts its argument gives the result. The one more gets a name that no value takes; between
the values themselves nothing is checked. So where two values have the same variant the type has it
twice, and where two of them have the same text only the first of the two is ever read.
-/

namespace ClientGen

/-! ## The functions of an enum -/

/-- The body of a function of the type, or of what it does in the role. -/
def Item.functionBody? (role : Option String) (name : String) : Item → Option (List Stmt)
  | .impl role' _ members =>
    if role' = role then members.findSome? (Associated.body? name) else none
  | _ => none

/-- The variant of the value as an expression. -/
def EnumValue.path (v : EnumValue) : Expr := .source s!"Self::{v.variant}"

theorem EnumValue.path_inj {a b : EnumValue} : a.path = b.path ↔ a.variant = b.variant := by
  simp [EnumValue.path, toString]

namespace Shape

variable {s : Shape} {values : List EnumValue}

/-- The value of a function of the type of an enum, where an arm without names gives it. -/
def enumFunction? (s : Shape) (values : List EnumValue) (role : Option String) (name : String)
    (argument : Expr) : Option Expr :=
  ((s.enumItems values).findSome? (Item.functionBody? role name)).bind (valueFor? argument)

/-- The text of the variant of the value is read as this variant again. -/
def ReadsBack (s : Shape) (values : List EnumValue) (v : EnumValue) : Prop :=
  ∃ wire, s.enumFunction? values none "as_str" v.path = some (.literal wire) ∧
    s.enumFunction? values (some "From<&str>") "from" (.literal wire) = some v.path

/-- The text of a variant is that of the first value with this variant. -/
theorem enumFunction?_asStr (s : Shape) (values : List EnumValue) (v : EnumValue) :
    s.enumFunction? values none "as_str" v.path =
      (values.find? (·.variant == v.variant)).map fun v => .literal v.value := by
  have hbody : (s.enumItems values).findSome? (Item.functionBody? none "as_str") =
      some [.matchOn (.source "self")
        (values.map (fun v => .value (.source s!"Self::{v.variant}") (.literal v.value))
          ++ [.value (.variant s!"Self::{unknownVariant values}" "value")
            (.method (.source "value") "as_str" [])])] := rfl
  rw [enumFunction?, hbody, Option.bind_some, valueFor?, EnumValue.path, selected?_variants]
  cases values.find? (·.variant == v.variant) <;> rfl

/-- A text is read as the variant of the first value that has it. -/
theorem enumFunction?_from (s : Shape) (values : List EnumValue) (wire : String) :
    s.enumFunction? values (some "From<&str>") "from" (.literal wire) =
      (values.find? (·.value == wire)).map EnumValue.path := by
  have hbody : (s.enumItems values).findSome? (Item.functionBody? (some "From<&str>") "from") =
      some [.matchOn (.source "value")
        (values.map (fun v => .value (.literal v.value) v.path)
          ++ [.value (.name "other")
            (.call s!"Self::{unknownVariant values}" [(Expr.source "other").toOwned])])] := rfl
  rw [enumFunction?, hbody, Option.bind_some, valueFor?, selected?_literals]
  cases values.find? (·.value == wire) <;> rfl

/-- Where the variants are different, all are read back exactly if the texts are different too. -/
theorem readsBack_iff (hvariants : (values.map EnumValue.variant).Nodup) :
    (∀ v ∈ values, s.ReadsBack values v) ↔ (values.map EnumValue.value).Nodup := by
  have hvalues : values.Nodup := .of_map _ hvariants
  have hinj := (List.nodup_map_iff_inj_on hvalues).1 hvariants
  rw [List.nodup_map_iff_inj_on hvalues, ← find?_eq_self_iff]
  refine forall₂_congr fun v hv => ?_
  have hfirst : values.find? (fun w => w.variant == v.variant) = some v :=
    find?_eq_self_iff.2 hinj v hv
  have hread : s.ReadsBack values v ↔
      (values.find? fun w => w.value == v.value).map EnumValue.path = some v.path := by
    rw [ReadsBack, enumFunction?_asStr, hfirst]
    simp [enumFunction?_from]
  rw [hread]
  constructor
  · intro h
    obtain ⟨w, hw, hpath⟩ := Option.map_eq_some_iff.1 h
    rw [hw, hinj w (List.mem_of_find?_eq_some hw) v hv (EnumValue.path_inj.1 hpath)]
  · intro h
    rw [h]
    rfl

theorem variants_enumItem (s : Shape) (values : List EnumValue) :
    (s.enumItem values).variants = values.map EnumValue.variant ++ [unknownVariant values] := by
  simp [enumItem, Item.variants]

/-- The variants of the type are different where those of the values are. -/
theorem nodup_variants_iff (s : Shape) (values : List EnumValue) :
    (s.enumItem values).variants.Nodup ↔ (values.map EnumValue.variant).Nodup := by
  rw [variants_enumItem, ← List.concat_eq_append, List.nodup_concat]
  exact and_iff_right (unknownVariant_not_mem values)

end Shape

namespace Model

variable {m : Model} {s : Shape} {values : List EnumValue}

theorem shapeItems_of_enum (hs : m.shape? s.id = some s) (hkind : s.kind = .enum values) :
    m.shapeItems s.id = .ok (s.enumItems values) := by
  rw [shapeItems, ok_bind (resolveShape_eq_ok.2 hs), hkind]
  rfl

/-- An enum has the items of its values in every module with it. Its type has the variants of the
values and one more, of a name that no value takes; they are different exactly if no two values have
the same variant. Then the text of every variant is read as this variant again exactly if no two
values have the same text. -/
theorem variants_of_enum (hs : m.shape? s.id = some s) (hkind : s.kind = .enum values) :
    m.shapeItems s.id = .ok (s.enumItems values) ∧
      (∀ ids t, s.id ∈ ids → m.typesModule ids = .ok t → s.enumItems values ⊆ t.items) ∧
      (s.enumItem values).definedType? = some s.generatedName ∧
      (s.enumItem values).variants = values.map EnumValue.variant ++ [unknownVariant values] ∧
      unknownVariant values ∉ values.map EnumValue.variant ∧
      ((s.enumItem values).variants.Nodup ↔ (values.map EnumValue.variant).Nodup) ∧
      ((values.map EnumValue.variant).Nodup →
        ((∀ v ∈ values, s.ReadsBack values v) ↔ (values.map EnumValue.value).Nodup)) := by
  have hitems := shapeItems_of_enum hs hkind
  refine ⟨hitems, fun ids t hid ht => ?_, rfl, s.variants_enumItem values,
    unknownVariant_not_mem values, s.nodup_variants_iff values, Shape.readsBack_iff⟩
  obtain ⟨items, hall, ht⟩ := bind_eq_ok.1 ht
  obtain rfl := Except.ok.inj ht
  obtain ⟨own, hown, hshape⟩ := exists_of_mem_mapM hall s.id hid
  obtain rfl := Except.ok.inj (hitems.symm.trans hshape)
  exact fun item hitem => List.mem_flatten.2 ⟨_, hown, hitem⟩

/-! ## A structure and an enum -/

/-- The input of the model below, which holds the enum. -/
def gateItem : Shape :=
  ⟨⟨"store", "Item"⟩, .structure [⟨"gate", ⟨"store", "Gate"⟩, false, []⟩], []⟩

def gate (values : List EnumValue) : Shape := ⟨⟨"store", "Gate"⟩, .enum values, []⟩

def gateOperation : Operation := ⟨⟨"store", "Put"⟩, some ⟨"store", "Item"⟩, none, none, none⟩

def gateService : Service := ⟨⟨"store", "Store"⟩, "1", [⟨"store", "Put"⟩], none, none⟩

def gateModel (values : List EnumValue) : Model where
  shapes := ⟨[gate values, gateItem], List.pairwise_pair.2
    (show (⟨"store", "Gate"⟩ : ShapeId) < ⟨"store", "Item"⟩ by decide)⟩
  operations := ⟨[gateOperation], List.pairwise_singleton _ _⟩
  services := ⟨[gateService], List.pairwise_singleton _ _⟩

def gateShapes : List ShapeId := [⟨"store", "Gate"⟩, ⟨"store", "Item"⟩]

section

variable (values : List EnumValue)

theorem shape?_gateItem : (gateModel values).shape? ⟨"store", "Item"⟩ = some gateItem := rfl

theorem shape?_gate : (gateModel values).shape? ⟨"store", "Gate"⟩ = some (gate values) := rfl

theorem reachable_gateModel : (gateModel values).reachable gateService.id = .ok gateShapes := by
  have hinsert : SortedSet.insert (⟨"store", "Gate"⟩ : ShapeId) [⟨"store", "Item"⟩] =
      gateShapes := by decide
  change (gateModel values).closure [] [(⟨"store", "Item"⟩, .operation _)] = _
  rw [closure_new List.not_mem_nil (shape?_gateItem values)]
  change (gateModel values).closure [⟨"store", "Item"⟩] [(⟨"store", "Gate"⟩, .member _ _)] = _
  rw [closure_new (by decide) (shape?_gate values), hinsert]
  exact closure_nil

/-- The checks look at no value of an enum. -/
theorem validate_gateModel : (gateModel values).validate gateService.id = .ok () := by
  have hshapes : gateShapes.forM (gateModel values).checkShape = .ok () := rfl
  have hchecks : (gateModel values).PassesLocalChecks gateService.id gateService gateShapes :=
    ⟨rfl, rfl, reachable_gateModel values, hshapes⟩
  refine hchecks.validate_of_leaves fun id hid t ht => ?_
  rcases List.mem_pair.1 hid with rfl | rfl
  · obtain rfl := Option.some.inj ((shape?_gate values).symm.trans ht)
    exact ⟨rfl, List.forall_mem_nil _⟩
  · obtain rfl := Option.some.inj ((shape?_gateItem values).symm.trans ht)
    exact ⟨rfl, List.forall_mem_singleton.2 rfl⟩

end

/-- Where a value has the name of the one more, this gets another one. -/
theorem variants_of_enum_unknown :
    let values := [⟨"open", "o"⟩, ⟨"unknown", "?"⟩]
    let m := gateModel values
    let s := gate values
    m.validate gateService.id = .ok () ∧ m.reachable gateService.id = .ok gateShapes ∧
      m.shape? s.id = some s ∧ s.kind = .enum values ∧
      (s.enumItem values).variants = ["Open", "Unknown", "UnknownValue"] ∧
      (s.enumItem values).variants.Nodup ∧ ∀ v ∈ values, s.ReadsBack values v := by
  intro values m s
  have hshape : m.shape? s.id = some s := shape?_gate values
  have hkind : s.kind = .enum values := rfl
  obtain ⟨-, -, -, -, -, hnodup, hread⟩ := variants_of_enum hshape hkind
  have hvariants : (s.enumItem values).variants = ["Open", "Unknown", "UnknownValue"] := by
    decide +kernel
  have hdifferent : (values.map EnumValue.variant).Nodup := by decide +kernel
  exact ⟨validate_gateModel values, reachable_gateModel values, hshape, hkind, hvariants,
    hnodup.2 hdifferent, (hread hdifferent).2 (by decide)⟩

/-- Two values with one variant and two with one text pass the checks. The type defines a variant
twice, and the text of the last value is read as the first one. -/
theorem not_nodup_variants_open :
    let values := [⟨"open", "o"⟩, ⟨"OPEN", "c"⟩, ⟨"shut", "o"⟩]
    let m := gateModel values
    let s := gate values
    m.validate gateService.id = .ok () ∧ m.reachable gateService.id = .ok gateShapes ∧
      m.shape? s.id = some s ∧ s.kind = .enum values ∧
      (s.enumItem values).variants = ["Open", "Open", "Shut", "Unknown"] ∧
      ¬ (s.enumItem values).variants.Nodup ∧ ¬ (values.map EnumValue.value).Nodup ∧
      s.enumFunction? values none "as_str" (.source "Self::Shut") = some (.literal "o") ∧
      s.enumFunction? values (some "From<&str>") "from" (.literal "o") =
        some (.source "Self::Open") := by
  intro values m s
  have hvariants : (s.enumItem values).variants = ["Open", "Open", "Shut", "Unknown"] := by
    decide +kernel
  have hopen : EnumValue.path ⟨"open", "o"⟩ = .source "Self::Open" := by
    have hname : (EnumValue.mk "open" "o").variant = "Open" := by decide +kernel
    rw [EnumValue.path, hname]
    rfl
  have hshut : EnumValue.path ⟨"shut", "o"⟩ = .source "Self::Shut" := by
    have hname : (EnumValue.mk "shut" "o").variant = "Shut" := by decide +kernel
    rw [EnumValue.path, hname]
    rfl
  have hlast : values.find? (·.variant == (EnumValue.mk "shut" "o").variant) =
      some ⟨"shut", "o"⟩ := by decide +kernel
  refine ⟨validate_gateModel values, reachable_gateModel values, shape?_gate values, rfl, hvariants,
    ?_, by decide, ?_, ?_⟩
  · rw [hvariants]
    decide
  · rw [← hshut, Shape.enumFunction?_asStr, hlast]
    rfl
  · rw [Shape.enumFunction?_from, ← hopen]
    rfl

end Model

end ClientGen
