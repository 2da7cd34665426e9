import ClientGen.Codec.Record

/-!
# The module of the data types

It has one type for each structure, union and enum, with its codec. Enums and unions have one
variant more than the model says, for what this client does not know. Collections and scalars have
no types of their own.
-/

namespace ClientGen

/-! ## Enums -/

/-- The first of `name`, `nameValue`, `nameValueValue` and so on that is not taken, or the last of
those tried. -/
def freeName (taken : List String) : Nat → String → String
  | 0, name => name
  | tries + 1, name =>
    if taken.contains name then freeName taken tries (name ++ "Value") else name

/-- The name of the variant for values that are not known. Each value takes at most one name, so
that there is no need to try more often than there are values. -/
def unknownVariant (values : List EnumValue) : String :=
  freeName (values.map fun v => Naming.typeName v.name) values.length "Unknown"

def EnumValue.variant (v : EnumValue) : String := Naming.typeName v.name

def Shape.enumItem (s : Shape) (values : List EnumValue) : Item :=
  .enum s.traits.documentation?
    ["Debug", "Clone", "PartialEq", "Eq", "Hash", "PartialOrd", "Ord"] s.generatedName
    (values.map (fun v => ⟨none, v.variant, none⟩)
      ++ [⟨some "A value this client does not know.", unknownVariant values,
        some (.ofName "String" "")⟩])

/-- The values of an enum on the wire, and the way from its variants to them. -/
def Shape.enumValues (s : Shape) (values : List EnumValue) : Item :=
  .impl none s.generatedName
    [.constant (some "Every known wire value, in declaration order.") "VALUES"
        "&'static [&'static str]" (values.map fun v => .literal v.value),
      .function none true ⟨"as_str", ["&self"], "&str", []⟩
        [.matchOn (.source "self")
          (values.map (fun v => .value (.source s!"Self::{v.variant}") (.literal v.value))
            ++ [.value (.variant s!"Self::{unknownVariant values}" "value")
              (.method (.source "value") "as_str" [])])]]

/-- The way from wire values to the variants of an enum. -/
def Shape.enumFrom (s : Shape) (values : List EnumValue) : Item :=
  .impl (some "From<&str>") s.generatedName
    [.function none false ⟨"from", ["value: &str"], "Self", []⟩
      [.matchOn (.source "value")
        (values.map (fun v => .value (.literal v.value) (.source s!"Self::{v.variant}"))
          ++ [.value (.name "other")
            (.call s!"Self::{unknownVariant values}" [(Expr.source "other").toOwned])])]]

def Shape.enumDisplay (s : Shape) : Item :=
  .impl (some "std::fmt::Display") s.generatedName
    [.function none false
      ⟨"fmt", ["&self", "f: &mut std::fmt::Formatter<'_>"], "std::fmt::Result", []⟩
      [.result (.method (.source "f") "write_str" [.method (.source "self") "as_str" []])]]

def Shape.enumItems (s : Shape) (values : List EnumValue) : List Item :=
  [s.enumItem values, s.enumValues values, s.enumFrom values, s.enumDisplay]

/-! ## Structures and unions -/

namespace Model

def recordDerives : List String := ["Debug", "Clone", "PartialEq"]

def structureItem (m : Model) (s : Shape) : Except GenerationError Item := do
  let fields ← s.members.mapM fun e => do
    let symbol ← m.memberSymbol modelNamespace s.id e
    pure ⟨e.traits.documentation?, true, Naming.fieldName e.name, symbol⟩
  pure (.struct s.traits.documentation? recordDerives s.generatedName fields)

def unionItem (m : Model) (s : Shape) : Except GenerationError Item := do
  let variants ← s.members.mapM fun e => do
    let symbol ← m.memberSymbol modelNamespace s.id e
    pure ⟨e.traits.documentation?, Naming.typeName e.name, some symbol⟩
  pure (.enum s.traits.documentation? recordDerives s.generatedName
    (variants ++ [⟨some "A variant this client does not know, with its wire key.", "Unknown",
      some (.ofName "String" "")⟩]))

/-! ## The module -/

/-- The items of a shape. A shape without a type of its own has only needs. -/
def shapeItems (m : Model) (id : ShapeId) : Except GenerationError (List Item) := do
  let s ← m.resolveShape id (.stage "model generation")
  match s.kind with
  | .structure _ => do
    let type ← m.structureItem s
    let codec ← m.structureCodec s
    pure (type :: s.codingKeyItems ++ [codec])
  | .union _ => do
    let type ← m.unionItem s
    let codec ← m.unionCodec s
    pure (type :: s.codingKeyItems ++ [codec])
  | .enum values => pure (s.enumItems values)
  | .list _ | .set _ | .map .. | .primitive _ => do
    let symbol ← m.symbol modelNamespace id
    pure [.need (.type symbol)]

def typesModule (m : Model) (shapes : List ShapeId) : Except GenerationError Module := do
  let items ← shapes.mapM m.shapeItems
  pure
    { ns := modelNamespace
      docs := "Data types exchanged with the service, with their wire codecs."
      needs := [.item "crate" "wire", .item "crate::wire" "DecodeError", .package .json]
      items := items.flatten }

end Model

end ClientGen
