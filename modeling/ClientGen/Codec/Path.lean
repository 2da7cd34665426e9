import ClientGen.Code.Stmt
import ClientGen.Symbol.Resolve

/-!
# The names of temporaries in a codec

They are made of the member that is coded, a role and the depth at which collections are nested, so
that no two levels share one.
-/

namespace ClientGen

/-- The member that is coded, and the depth of the collections around it. -/
structure CodecPath where
  stem : String
  depth : Nat
deriving DecidableEq

namespace CodecPath

def ofMember (name : String) : CodecPath := ⟨Naming.tempStem name, 0⟩

/-- The name of a temporary at the depth. -/
def temp (p : CodecPath) (role : String) : String := s!"{p.stem}_{role}{p.depth}"

/-- The name of a local of the member itself. -/
def ofRole (p : CodecPath) (role : String) : String := s!"{p.stem}_{role}"

/-- The path of what is one collection deeper. -/
def deeper (p : CodecPath) : CodecPath := { p with depth := p.depth + 1 }

def referrer (p : CodecPath) : Referrer := .codec p.stem

end CodecPath

/-- The key under which a wrapped map has its entries. -/
def entryKey : String := "entry"

namespace Wire

/-- A function of the wire module applied to an argument. -/
def call (f : String) (e : Expr) : Expr := .call ("wire::" ++ f) [e]

/-- The same, where it may fail. -/
def tryCall (f : String) (e : Expr) : Expr := (call f e).propagate

/-- A variant of values on the wire. -/
def value (variant : String) : Expr := .source ("serde_json::Value::" ++ variant)

/-- A value on the wire made of an expression. -/
def make (variant : String) (e : Expr) : Expr := .call ("serde_json::Value::" ++ variant) [e]

/-- An object without fields. -/
def emptyMap : Expr := .call "serde_json::Map::new" []

end Wire

/-- A collection with room for as many elements as another one has. -/
def withCapacity (type : String) (like : Expr) : Expr :=
  .call (type ++ "::with_capacity") [like.method "len" []]

/-- Puts an element at the end of a buffer. -/
def pushTo (buffer : String) (e : Expr) : Expr := .method (.source buffer) "push" [e]

/-- Puts a value under a key. -/
def insertInto (buffer : String) (key e : Expr) : Stmt :=
  .run (.method (.source buffer) "insert" [key, e])

/-- The value of an optional element that is there. -/
def present (e : Expr) : Expr := .call "Some" [e]

end ClientGen
