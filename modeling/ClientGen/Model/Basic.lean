import ClientGen.Model.Catalog
import ClientGen.Model.Operation
import ClientGen.Model.Shape
import ClientGen.Json.Decode

/-!
# The resolved model of one run

A model holds shapes, operations and services, each under an identifier of its own. A shape and an
operation may share an identifier, two shapes may not.
-/

namespace ClientGen

instance : Identified Shape := ⟨Shape.id⟩
instance : Identified Operation := ⟨Operation.id⟩
instance : Identified Service := ⟨Service.id⟩

/-- Why a model cannot be built or loaded. -/
inductive ModelError
  /-- A text is no identifier. -/
  | invalidShapeId (text : String)
  /-- An identifier is defined twice. -/
  | duplicateDefinition (id : ShapeId)
  /-- A document is not the JSON of a model. -/
  | json (failure : Json.Failure)
deriving DecidableEq

/-- The text of an identifier that cannot be read. -/
def ShapeId.invalidMessage (text : String) : String :=
  s!"Invalid shape id '{text}': expected 'namespace#Name'"

def ShapeId.ofText (text : String) : Except ModelError ShapeId :=
  match ShapeId.ofText? text with
  | some id => .ok id
  | none => .error (.invalidShapeId text)

def ModelError.message : ModelError → String
  | .invalidShapeId text => ShapeId.invalidMessage text
  | .duplicateDefinition id => s!"Duplicate definition for '{id}'"
  | .json (.mismatch message) => s!"Failed to parse model document: {message}"
  | .json _ => "Failed to parse model document: "

structure Model where
  shapes : Catalog Shape
  operations : Catalog Operation
  services : Catalog Service
deriving DecidableEq, Inhabited

namespace Model

/-- A model without definitions. -/
def empty : Model := ⟨.empty, .empty, .empty⟩

def shape? (m : Model) (id : ShapeId) : Option Shape := m.shapes.get? id

def operation? (m : Model) (id : ShapeId) : Option Operation := m.operations.get? id

def service? (m : Model) (id : ShapeId) : Option Service := m.services.get? id

def define {α : Type} [Identified α] (c : Catalog α) (a : α) : Except ModelError (Catalog α) :=
  match c.insert? a with
  | some c => .ok c
  | none => .error (.duplicateDefinition (Identified.idOf a))

/-- Adds a shape, unless its identifier is taken by one. -/
def insertShape (m : Model) (s : Shape) : Except ModelError Model :=
  (define m.shapes s).map fun shapes => { m with shapes }

/-- Adds an operation, unless its identifier is taken by one. -/
def insertOperation (m : Model) (o : Operation) : Except ModelError Model :=
  (define m.operations o).map fun operations => { m with operations }

/-- Adds a service, unless its identifier is taken by one. -/
def insertService (m : Model) (s : Service) : Except ModelError Model :=
  (define m.services s).map fun services => { m with services }

/-- The model with all of these in addition: shapes first, then operations, then services. -/
def insertAll (m : Model) (shapes : List Shape) (operations : List Operation)
    (services : List Service) : Except ModelError Model := do
  let m ← shapes.foldlM insertShape m
  let m ← operations.foldlM insertOperation m
  services.foldlM insertService m

/-- The model of exactly these definitions. -/
def ofLists (shapes : List Shape) (operations : List Operation) (services : List Service) :
    Except ModelError Model :=
  empty.insertAll shapes operations services

/-- The model that has one shape for each scalar type, and nothing else. -/
def withPrelude : Model :=
  match ofLists (Primitive.all.map Shape.ofPrimitive) [] [] with
  | .ok m => m
  | .error _ => empty

/-- The model with every definition of another one in addition, in the order of identifiers. -/
def merge (m other : Model) : Except ModelError Model :=
  m.insertAll other.shapes.entries other.operations.entries other.services.entries

end Model

end ClientGen
