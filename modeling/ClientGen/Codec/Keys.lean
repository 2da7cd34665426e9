import ClientGen.Code.Item
import ClientGen.Symbol.Resolve

/-!
# The keys of a structure or union on the wire

Each record type has an enum of its keys, with one variant for each member in the order of
declaration, so that no code spells a key twice.
-/

namespace ClientGen

structure CodingKey where
  variant : String
  /-- The key on the wire. -/
  wire : String
  member : String
deriving DecidableEq

namespace CodingKey

def ofMember (e : Member) : CodingKey := ⟨Naming.typeName e.name, e.wireName, e.name⟩

def path (k : CodingKey) : Expr := .source s!"Self::{k.variant}"

end CodingKey

namespace Shape

def codingKeysName (s : Shape) : String := s!"{s.generatedName}CodingKeys"

/-- The keys of the members, in their order. -/
def codingKeys (s : Shape) : List CodingKey := s.members.map .ofMember

/-- The variant for the key of a member, as a path. -/
def codingKeyPath (s : Shape) (e : Member) : String :=
  s!"{s.codingKeysName}::{Naming.typeName e.name}"

def keyExpr (s : Shape) (e : Member) : Expr := .method (.source (s.codingKeyPath e)) "as_str" []

/-- The key on the wire for each variant. -/
def asStrArms (s : Shape) : List Arm :=
  s.codingKeys.map fun k => .value (.source s!"Self::{k.variant}") (.literal k.wire)

/-- The variant for each key on the wire. -/
def fromWireArms (s : Shape) : List Arm :=
  s.codingKeys.map (fun k => .value (.literal k.wire) (.call "Some" [k.path]))
    ++ [.value (.source "_") (.source "None")]

/-- The type of the keys, and the two directions between its values and the keys on the wire. -/
def codingKeyItems (s : Shape) : List Item :=
  let fromWire : List Stmt :=
    if s.members.isEmpty then [.bind "_" (.source "key"), .result (.source "None")]
    else [.matchOn (.source "key") s.fromWireArms]
  [.enum (some s!"Wire keys of [`{s.generatedName}`], one per member in declaration order.")
      ["Debug", "Clone", "Copy", "PartialEq", "Eq", "Hash"] s.codingKeysName
      (s.codingKeys.map fun k => ⟨none, k.variant, none⟩),
    .impl none s.codingKeysName
      [.constant none "ALL" "&'static [Self]" (s.codingKeys.map CodingKey.path),
        .function (some "Key used in the wire container.") true
          ⟨"as_str", ["self"], "&'static str", []⟩ [.matchOn (.source "self") s.asStrArms],
        .function (some "Looks up the key for a wire container entry.") true
          ⟨"from_wire", ["key: &str"], "Option<Self>", []⟩ fromWire]]

end Shape

end ClientGen
