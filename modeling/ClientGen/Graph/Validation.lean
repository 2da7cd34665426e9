import ClientGen.Graph.Cycle
import ClientGen.Graph.Reachable
import ClientGen.Naming

/-!
# The checks that come before any code is written

They look at what the service reaches: every reference leads somewhere, inputs and outputs are
structures, the members of a shape have names of their own as written and as identifiers, map keys
have a written form, and nothing has to contain itself.
-/

namespace ClientGen

/-- Checks that no two members have one name, as written or as an identifier; `earlier` are the
members before these. -/
def checkMembersFrom (owner : ShapeId) (earlier : List Member) :
    List Member → Except GenerationError Unit
  | [] => .ok ()
  | e :: rest =>
    if earlier.any (·.name == e.name) then
      .error (.invalidGraph (.duplicateMember e.name) [owner])
    else if earlier.any fun o => Naming.fieldName o.name == Naming.fieldName e.name
        || Naming.typeName o.name == Naming.typeName e.name then
      .error (.invalidGraph (.clashingMember e.name) [owner])
    else checkMembersFrom owner (e :: earlier) rest

/-- Checks the names of the members of a structure or union. -/
def Shape.checkMembers (s : Shape) : Except GenerationError Unit :=
  checkMembersFrom s.id [] s.members

/-- Whether the values of a shape can be keys of a map: strings, integers and enums. -/
def Shape.isKey (s : Shape) : Bool :=
  match s.kind with
  | .enum _ => true
  | .primitive p => p == .string || p.isInteger
  | _ => false

namespace Model

def checkMapKey (m : Model) (s : Shape) : Except GenerationError Unit :=
  match s.kind with
  | .map key _ => do
    let k ← m.resolveShape key.target (.member s.id "key")
    if k.isKey then pure () else .error (.invalidGraph (.mapKey key.target) [s.id, key.target])
  | _ => .ok ()

/-- Checks the input or output of an operation. -/
def checkRole (m : Model) (op : ShapeId) (role : Role) (io : Option ShapeId) :
    Except GenerationError Unit :=
  match io with
  | none => .ok ()
  | some io => do
    let s ← m.resolveShape io (.role role op)
    if s.isStructure then pure () else .error (.invalidGraph (.notStructure role op) [io])

/-- Checks an operation that a service lists. -/
def checkOperation (m : Model) (service op : ShapeId) : Except GenerationError Unit :=
  match m.operation? op with
  | none => .error (.unresolvedShape op (.service service))
  | some o => do
    m.checkRole op .input o.input
    m.checkRole op .output o.output

def checkShape (m : Model) (id : ShapeId) : Except GenerationError Unit := do
  let s ← m.resolveShape id (.stage "closure walk")
  s.checkMembers
  m.checkMapKey s

/-- Looks for cycles of both kinds from each of the shapes, with what is known of earlier ones. -/
def checkCycles (m : Model) (requiredDone collectionDone : List ShapeId) :
    List ShapeId → Except GenerationError Unit
  | [] => .ok ()
  | id :: rest => do
    let requiredDone ← CycleKind.required.walk m [] requiredDone id
    let collectionDone ← CycleKind.collection.walk m [] collectionDone id
    m.checkCycles requiredDone collectionDone rest

/-- Checks all that the service reaches. -/
def validate (m : Model) (service : ShapeId) : Except GenerationError Unit := do
  let s ← m.resolveService service
  s.operations.forM (m.checkOperation s.id)
  let reachable ← m.reachable service
  reachable.forM m.checkShape
  m.checkCycles [] [] reachable

end Model

end ClientGen
