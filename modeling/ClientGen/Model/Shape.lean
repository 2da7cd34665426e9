import ClientGen.Json.Value
import ClientGen.Model.ShapeId

/-!
# Shapes and members

Shapes are the nodes of a model, and members the edges between them. Traits never change what a
shape is; they change how it is represented in the generated code or on the wire.
-/

namespace ClientGen

/-! ## Traits -/

inductive Trait
  /-- Stays nullable even when a default is supplied. -/
  | boxed
  /-- The value to use when none is given. -/
  | default (value : Json.Value)
  /-- Elements may be null. -/
  | sparse
  /-- Elements are nested under a named key. -/
  | wrapped
  /-- The key on the wire, in the place of the name. -/
  | jsonName (name : String)
  /-- Is put into the path of the request. -/
  | httpLabel
  /-- Is sent as the named query parameter. -/
  | httpQuery (name : String)
  /-- Is sent as the named header. -/
  | httpHeader (name : String)
  /-- Is the whole body of the request. -/
  | httpPayload
  | documentation (text : String)
deriving DecidableEq, Inhabited

/-- The annotations of a shape or member; of several of one kind the first counts. -/
abbrev Traits := List Trait

namespace Traits

/-- Whether a value may be absent in spite of a default. -/
def isBoxed (ts : Traits) : Bool := ts.any fun | .boxed => true | _ => false

/-- Whether the elements of a collection may be null. -/
def isSparse (ts : Traits) : Bool := ts.any fun | .sparse => true | _ => false

/-- Whether the elements of a collection stand under a key. -/
def isWrapped (ts : Traits) : Bool := ts.any fun | .wrapped => true | _ => false

/-- Whether the member goes into the path. -/
def isHttpLabel (ts : Traits) : Bool := ts.any fun | .httpLabel => true | _ => false

/-- Whether the member is the whole body. -/
def isHttpPayload (ts : Traits) : Bool := ts.any fun | .httpPayload => true | _ => false

def default? (ts : Traits) : Option Json.Value :=
  ts.findSome? fun | .default v => some v | _ => none

/-- The name on the wire, if it differs. -/
def jsonName? (ts : Traits) : Option String :=
  ts.findSome? fun | .jsonName n => some n | _ => none

/-- The parameter of the query that the member goes into. -/
def httpQuery? (ts : Traits) : Option String :=
  ts.findSome? fun | .httpQuery n => some n | _ => none

/-- The header that the member goes into. -/
def httpHeader? (ts : Traits) : Option String :=
  ts.findSome? fun | .httpHeader n => some n | _ => none

def documentation? (ts : Traits) : Option String :=
  ts.findSome? fun | .documentation t => some t | _ => none

end Traits

/-! ## Shapes -/

inductive Primitive
  | boolean
  | byte
  | short
  | integer
  | long
  | float
  | double
  | string
  | blob
  | timestamp
  /-- JSON that has no type. -/
  | document
deriving DecidableEq, Inhabited

namespace Primitive

/-- The scalar types in the order of their declaration. -/
def all : List Primitive :=
  [boolean, byte, short, integer, long, float, double, string, blob, timestamp, document]

/-- The word for the type in a document. -/
def text : Primitive → String
  | boolean => "boolean"
  | byte => "byte"
  | short => "short"
  | integer => "integer"
  | long => "long"
  | float => "float"
  | double => "double"
  | string => "string"
  | blob => "blob"
  | timestamp => "timestamp"
  | document => "document"

/-- The name of the prelude shape of the type. -/
def preludeName : Primitive → String
  | boolean => "Boolean"
  | byte => "Byte"
  | short => "Short"
  | integer => "Integer"
  | long => "Long"
  | float => "Float"
  | double => "Double"
  | string => "String"
  | blob => "Blob"
  | timestamp => "Timestamp"
  | document => "Document"

def ofText? (word : String) : Option Primitive := all.find? (·.text == word)

def isInteger : Primitive → Bool
  | byte | short | integer | long => true
  | _ => false

/-- The integer and the floating point types. -/
def isNumber (p : Primitive) : Bool := p.isInteger || p == float || p == double

end Primitive

structure EnumValue where
  /-- The name, of which the variant is made. -/
  name : String
  /-- The value on the wire. -/
  value : String
deriving DecidableEq, Inhabited

/-- A reference from the shape that owns it to a target shape. -/
structure Member where
  name : String
  target : ShapeId
  required : Bool
  traits : Traits
deriving DecidableEq, Inhabited

namespace Member

/-- Whether the member may be left out. -/
def isOptional (m : Member) : Bool := !m.required

/-- The key of the member on the wire. -/
def wireName (m : Member) : String := m.traits.jsonName?.getD m.name

end Member

/-- What kind of data a shape describes. -/
inductive ShapeKind
  | structure (members : List Member)
  | union (members : List Member)
  | list (member : Member)
  | set (member : Member)
  | map (key value : Member)
  | primitive (p : Primitive)
  | enum (values : List EnumValue)
deriving DecidableEq, Inhabited

structure Shape where
  id : ShapeId
  kind : ShapeKind
  traits : Traits
deriving DecidableEq, Inhabited

namespace Shape

/-- The members of a structure or union. -/
def members (s : Shape) : List Member :=
  match s.kind with
  | .structure members | .union members => members
  | _ => []

/-- Every edge that leaves the shape, in the order of declaration. -/
def edges (s : Shape) : List Member :=
  match s.kind with
  | .structure members | .union members => members
  | .list member | .set member => [member]
  | .map key value => [key, value]
  | .primitive _ | .enum _ => []

def isStructure (s : Shape) : Bool := match s.kind with | .structure _ => true | _ => false

def isUnion (s : Shape) : Bool := match s.kind with | .union _ => true | _ => false

/-- Structures and unions: the shapes that become a type holding its members by value. -/
def isRecord (s : Shape) : Bool := s.isStructure || s.isUnion

/-- Lists, sets and maps. -/
def isCollection (s : Shape) : Bool :=
  match s.kind with
  | .list _ | .set _ | .map _ _ => true
  | _ => false

/-- The prelude shape of a scalar type. -/
def ofPrimitive (p : Primitive) : Shape := ⟨.prelude p.preludeName, .primitive p, []⟩

end Shape

end ClientGen
