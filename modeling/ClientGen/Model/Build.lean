import ClientGen.Model.Basic

/-! Short forms for writing definitions by hand. -/

namespace ClientGen

namespace Member

/-- A member that must be given. -/
def needed (name : String) (target : ShapeId) (traits : Traits := []) : Member :=
  ⟨name, target, true, traits⟩

/-- A member that may be absent. -/
def optional (name : String) (target : ShapeId) (traits : Traits := []) : Member :=
  ⟨name, target, false, traits⟩

end Member

namespace Operation

/-- An operation without input, output, binding and documentation. -/
def named (id : ShapeId) : Operation := ⟨id, none, none, none, none⟩

end Operation

namespace ShapeId

def string : ShapeId := prelude "String"
def boolean : ShapeId := prelude "Boolean"
def integer : ShapeId := prelude "Integer"
def long : ShapeId := prelude "Long"
def float : ShapeId := prelude "Float"
def double : ShapeId := prelude "Double"
def blob : ShapeId := prelude "Blob"
def timestamp : ShapeId := prelude "Timestamp"
def document : ShapeId := prelude "Document"

end ShapeId

end ClientGen
