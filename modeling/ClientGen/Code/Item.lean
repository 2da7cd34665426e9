import ClientGen.Code.Stmt
import ClientGen.Code.Writer

/-! Items of generated modules: types with their implementations, and interfaces. -/

namespace ClientGen

structure Signature where
  name : String
  params : List String
  result : String
  /-- The types of the model in it. -/
  types : List Symbol

def Signature.text (s : Signature) : String :=
  "fn " ++ s.name ++ "(" ++ ", ".intercalate s.params ++ ") -> " ++ s.result

structure StructField where
  docs : Option String
  isPublic : Bool
  name : String
  type : Symbol

/-- A variant of an enum, with the type of its value if it has one. -/
structure EnumVariant where
  docs : Option String
  name : String
  payload : Option Symbol

structure Method where
  docs : Option String
  signature : Signature

inductive Associated
  | constant (docs : Option String) (name type : String) (elements : List Expr)
  | function (docs : Option String) (isPublic : Bool) (signature : Signature) (body : List Stmt)

inductive Item
  | struct (docs : Option String) (derives : List String) (name : String)
      (fields : List StructField)
  | enum (docs : Option String) (derives : List String) (name : String)
      (variants : List EnumVariant)
  | interface (docs : Option String) (name : String) (methods : List Method)
  /-- The members of a type, or its implementation of an interface. -/
  | impl (role : Option String) (type : String) (members : List Associated)
  /-- No item, but a need of the module. -/
  | need (n : Need)

/-! ## Layout -/

/-- The documentation of an item, if it has any. -/
def docCode (docs : Option String) : List Code := (docs.map Code.doc).toList

def deriveCode : List String → List Code
  | [] => []
  | derives => [.text ("#[derive(" ++ ", ".intercalate derives ++ ")]")]

def visibility (isPublic : Bool) : String := if isPublic then "pub " else ""

/-- The types of the model in the head of a function are needed. -/
def Signature.needs (s : Signature) : List Code := s.types.map fun t => .need (.type t)

/-- The line of a field, behind its documentation. -/
def StructField.code (f : StructField) : List Code :=
  Code.need (.type f.type) :: docCode f.docs
    ++ [.text s!"{visibility f.isPublic}{f.name}: {f.type.declaredType},"]

/-- The line of a variant, behind its documentation. -/
def EnumVariant.code (v : EnumVariant) : List Code :=
  match v.payload with
  | some s => Code.need (.type s) :: docCode v.docs ++ [.text s!"{v.name}({s.declaredType}),"]
  | none => docCode v.docs ++ [.text s!"{v.name},"]

/-- The line of a method, behind its documentation. -/
def Method.code (m : Method) : List Code :=
  docCode m.docs ++ m.signature.needs ++ [.text s!"{m.signature.text};"]

/-- The lines of what belongs to a type. -/
def Associated.code : Associated → List Code
  | .constant docs name type elements =>
    docCode docs ++
      [.text (s!"pub const {name}: {type} = &[" ++ ", ".intercalate (elements.map Expr.text)
        ++ "];")]
  | .function docs isPublic signature body =>
    docCode docs ++ signature.needs ++
      [.block s!"{visibility isPublic}{signature.text} \x7b" (codeOfStmts body) "\x7d"]

/-- Pieces with an empty line between each two. -/
def separated (pieces : List (List Code)) : List Code := [Code.blank].intercalate pieces

/-- The lines of an item, and an empty line behind it. -/
def Item.code : Item → List Code
  | struct docs derives name fields =>
    docCode docs ++ deriveCode derives
      ++ [.block s!"pub struct {name} \x7b" (fields.flatMap StructField.code) "\x7d", .blank]
  | enum docs derives name variants =>
    docCode docs ++ deriveCode derives
      ++ [.block s!"pub enum {name} \x7b" (variants.flatMap EnumVariant.code) "\x7d", .blank]
  | interface docs name methods =>
    docCode docs
      ++ [.block s!"pub trait {name} \x7b" (separated (methods.map Method.code)) "\x7d", .blank]
  | impl none type members =>
    [.block s!"impl {type} \x7b" (separated (members.map Associated.code)) "\x7d", .blank]
  | impl (some role) type members =>
    [.block s!"impl {role} for {type} \x7b" (separated (members.map Associated.code)) "\x7d",
      .blank]
  | need n => [.need n]

/-! ## Modules -/

structure Module where
  ns : String
  docs : String
  needs : List Need
  items : List Item

namespace Module

/-- The module with all its items written. -/
def writer (m : Module) : Writer :=
  ((Writer.new m.ns).moduleDoc m.docs).emit (m.needs.map Code.need ++ m.items.flatMap Item.code)

def unit (m : Module) : SourceUnit := ⟨m.ns, m.writer.source, m.writer.dependencies⟩

end Module

end ClientGen
