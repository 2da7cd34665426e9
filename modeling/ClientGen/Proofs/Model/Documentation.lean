import ClientGen.Graph.Validation
import ClientGen.Model.Basic

/-!
# Models without their documentation

Documentation stands at shapes, members, operations and services. What is erased here is all of it
and nothing else, so that two models differ in documentation alone exactly if they are equal without
it. Whatever the generator asks of a shape or member has the same answer without documentation.
-/

namespace ClientGen

/-! ## Traits -/

def Trait.isDocumentation : Trait → Bool
  | .documentation _ => true
  | _ => false

namespace Traits

/-- The annotations but for documentation. -/
def undocumented (ts : Traits) : Traits := ts.filter fun t => !t.isDocumentation

theorem any_undocumented {f : Trait → Bool} (hf : ∀ text, f (.documentation text) = false)
    (ts : Traits) : ts.undocumented.any f = ts.any f := by
  rw [undocumented, List.any_filter]
  refine List.any_congr rfl fun t => ?_
  cases t <;> simp [Trait.isDocumentation, hf]

theorem findSome?_undocumented {α : Type} {f : Trait → Option α}
    (hf : ∀ text, f (.documentation text) = none) (ts : Traits) :
    ts.undocumented.findSome? f = ts.findSome? f := by
  induction ts with
  | nil => rfl
  | cons t ts ih =>
    rw [undocumented, List.filter_cons]
    split
    · rw [List.findSome?_cons, List.findSome?_cons, ← undocumented, ih]
    · rename_i hdocs
      obtain ⟨text, rfl⟩ : ∃ text, t = .documentation text := by
        cases t <;> simp [Trait.isDocumentation] at hdocs ⊢
      rw [List.findSome?_cons, hf, ← undocumented, ih]

variable (ts : Traits)

@[simp] theorem isBoxed_undocumented : ts.undocumented.isBoxed = ts.isBoxed :=
  any_undocumented (fun _ => rfl) ts

@[simp] theorem isSparse_undocumented : ts.undocumented.isSparse = ts.isSparse :=
  any_undocumented (fun _ => rfl) ts

@[simp] theorem isWrapped_undocumented : ts.undocumented.isWrapped = ts.isWrapped :=
  any_undocumented (fun _ => rfl) ts

@[simp] theorem isHttpLabel_undocumented : ts.undocumented.isHttpLabel = ts.isHttpLabel :=
  any_undocumented (fun _ => rfl) ts

@[simp] theorem isHttpPayload_undocumented : ts.undocumented.isHttpPayload = ts.isHttpPayload :=
  any_undocumented (fun _ => rfl) ts

@[simp] theorem default?_undocumented : ts.undocumented.default? = ts.default? :=
  findSome?_undocumented (fun _ => rfl) ts

@[simp] theorem jsonName?_undocumented : ts.undocumented.jsonName? = ts.jsonName? :=
  findSome?_undocumented (fun _ => rfl) ts

@[simp] theorem httpQuery?_undocumented : ts.undocumented.httpQuery? = ts.httpQuery? :=
  findSome?_undocumented (fun _ => rfl) ts

@[simp] theorem httpHeader?_undocumented : ts.undocumented.httpHeader? = ts.httpHeader? :=
  findSome?_undocumented (fun _ => rfl) ts

end Traits

/-! ## Members and shapes -/

namespace Member

/-- The member without its documentation. -/
def undocumented (e : Member) : Member := { e with traits := e.traits.undocumented }

variable (e : Member)

@[simp] theorem name_undocumented : e.undocumented.name = e.name := rfl

@[simp] theorem target_undocumented : e.undocumented.target = e.target := rfl

@[simp] theorem required_undocumented : e.undocumented.required = e.required := rfl

@[simp] theorem traits_undocumented : e.undocumented.traits = e.traits.undocumented := rfl

@[simp] theorem isOptional_undocumented : e.undocumented.isOptional = e.isOptional := rfl

@[simp] theorem wireName_undocumented : e.undocumented.wireName = e.wireName := by
  simp [wireName]

end Member

/-- The kind without the documentation of its members. -/
@[simp] def ShapeKind.undocumented : ShapeKind → ShapeKind
  | .structure members => .structure (members.map .undocumented)
  | .union members => .union (members.map .undocumented)
  | .list e => .list e.undocumented
  | .set e => .set e.undocumented
  | .map k v => .map k.undocumented v.undocumented
  | .primitive p => .primitive p
  | .enum values => .enum values

namespace Shape

/-- The shape without its documentation. -/
def undocumented (s : Shape) : Shape :=
  { s with kind := s.kind.undocumented, traits := s.traits.undocumented }

variable (s : Shape)

@[simp] theorem id_undocumented : s.undocumented.id = s.id := rfl

@[simp] theorem kind_undocumented : s.undocumented.kind = s.kind.undocumented := rfl

@[simp] theorem traits_undocumented : s.undocumented.traits = s.traits.undocumented := rfl

@[simp] theorem members_undocumented :
    s.undocumented.members = s.members.map .undocumented := by
  unfold members
  rw [kind_undocumented]
  cases s.kind <;> rfl

@[simp] theorem edges_undocumented : s.undocumented.edges = s.edges.map .undocumented := by
  unfold edges
  rw [kind_undocumented]
  cases s.kind <;> rfl

@[simp] theorem isStructure_undocumented : s.undocumented.isStructure = s.isStructure := by
  unfold isStructure
  rw [kind_undocumented]
  cases s.kind <;> rfl

@[simp] theorem isUnion_undocumented : s.undocumented.isUnion = s.isUnion := by
  unfold isUnion
  rw [kind_undocumented]
  cases s.kind <;> rfl

@[simp] theorem isRecord_undocumented : s.undocumented.isRecord = s.isRecord := by
  simp [isRecord]

@[simp] theorem isCollection_undocumented : s.undocumented.isCollection = s.isCollection := by
  unfold isCollection
  rw [kind_undocumented]
  cases s.kind <;> rfl

@[simp] theorem isKey_undocumented : s.undocumented.isKey = s.isKey := by
  unfold isKey
  rw [kind_undocumented]
  cases s.kind <;> rfl

theorem checkMembersFrom_undocumented (owner : ShapeId) (earlier members : List Member) :
    checkMembersFrom owner (earlier.map .undocumented) (members.map .undocumented) =
      checkMembersFrom owner earlier members := by
  induction members generalizing earlier with
  | nil => rfl
  | cons e rest ih =>
    rw [List.map_cons, checkMembersFrom, checkMembersFrom, ← List.map_cons, ih]
    simp only [List.any_map, Function.comp_def, Member.name_undocumented]

@[simp] theorem checkMembers_undocumented : s.undocumented.checkMembers = s.checkMembers := by
  rw [checkMembers, members_undocumented]
  exact checkMembersFrom_undocumented s.id [] s.members

end Shape

/-! ## Operations and services -/

def Operation.undocumented (o : Operation) : Operation := { o with documentation := none }

def Service.undocumented (s : Service) : Service := { s with documentation := none }

/-! ## Models -/

/-- The catalog with each definition changed, but not its identifier. -/
def Catalog.map {α : Type} [Identified α] (c : Catalog α) (f : α → α)
    (hf : ∀ a, Identified.idOf (f a) = Identified.idOf a) : Catalog α where
  entries := c.entries.map f
  sorted := List.pairwise_map.2 (c.sorted.imp fun {a b} h => by rwa [hf, hf])

theorem Catalog.get?_map {α : Type} [Identified α] (c : Catalog α) (f : α → α)
    (hf : ∀ a, Identified.idOf (f a) = Identified.idOf a) (id : ShapeId) :
    (c.map f hf).get? id = (c.get? id).map f := by
  simp only [get?, map, List.find?_map, Function.comp_def, hf]

namespace Model

/-- The model without any documentation. -/
def undocumented (m : Model) : Model where
  shapes := m.shapes.map .undocumented fun _ => rfl
  operations := m.operations.map .undocumented fun _ => rfl
  services := m.services.map .undocumented fun _ => rfl

variable (m : Model) (id : ShapeId)

@[simp] theorem shape?_undocumented :
    m.undocumented.shape? id = (m.shape? id).map .undocumented :=
  Catalog.get?_map m.shapes Shape.undocumented (fun _ => rfl) id

@[simp] theorem operation?_undocumented :
    m.undocumented.operation? id = (m.operation? id).map .undocumented :=
  Catalog.get?_map m.operations Operation.undocumented (fun _ => rfl) id

@[simp] theorem service?_undocumented :
    m.undocumented.service? id = (m.service? id).map .undocumented :=
  Catalog.get?_map m.services Service.undocumented (fun _ => rfl) id

end Model

end ClientGen
