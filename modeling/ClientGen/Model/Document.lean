import ClientGen.Json.Printer
import ClientGen.Model.Basic

/-!
# Models as JSON documents

A document has three arrays of shapes, operations and services. Traits and kinds are tagged; a trait
list that is empty is left out, and of operations and services the parts that are absent are null.
-/

namespace ClientGen

open Json

/-! ## Reading -/

namespace Decode

/-- A field of a record, held in one part of what has been read. -/
def field {σ τ : Type} (name : String) (isOptional : Bool) (get : σ → Option τ)
    (set : σ → τ → σ) (d : Decoder τ) : RecordField σ where
  name
  isOptional
  isSet := fun s => (get s).isSome
  read := fun depth v s => (d depth v).map (set s)

/-- An identifier, which a text of another form is not. -/
def shapeId : Decoder ShapeId := fun depth v => do
  let text ← Decoder.string depth v
  match ShapeId.ofText? text with
  | some id => pure id
  | none => .error (.mismatch (ShapeId.invalidMessage text))

def word {α : Type} (all : List α) (text : α → String) : Decoder α :=
  Decoder.variant (all.map fun a => ⟨text a, .nothing a⟩)

def primitive : Decoder Primitive := word Primitive.all Primitive.text

def method : Decoder HttpMethod := word HttpMethod.all HttpMethod.text

def protocol : Decoder Protocol := word Protocol.all Protocol.text

def carrying {α β : Type} (tag : String) (make : α → β) (d : Decoder α) : Variant β :=
  ⟨tag, .payload fun depth v => (d depth v).map make⟩

/-- An annotation, of which some carry a value. -/
def trait : Decoder Trait := Decoder.variant [
  ⟨"boxed", .nothing .boxed⟩,
  carrying "default" .default .value,
  ⟨"sparse", .nothing .sparse⟩,
  ⟨"wrapped", .nothing .wrapped⟩,
  carrying "jsonName" .jsonName .string,
  ⟨"httpLabel", .nothing .httpLabel⟩,
  carrying "httpQuery" .httpQuery .string,
  carrying "httpHeader" .httpHeader .string,
  ⟨"httpPayload", .nothing .httpPayload⟩,
  carrying "documentation" .documentation .string]

def enumValue : Decoder EnumValue := RecordForm.decoder {
  expecting := "struct EnumValue"
  fields := [
    field "name" false (·.1) (fun s x => (some x, s.2)) .string,
    field "value" false (·.2) (fun s x => (s.1, some x)) .string]
  start := (none, none)
  finish? := fun (name, value) => do pure ⟨← name, ← value⟩ }

def member : Decoder Member := RecordForm.decoder {
  expecting := "struct Member"
  fields := [
    field "name" false (·.1) (fun s x => (some x, s.2)) .string,
    field "target" false (·.2.1) (fun s x => (s.1, some x, s.2.2)) shapeId,
    field "required" true (·.2.2.1) (fun s x => (s.1, s.2.1, some x, s.2.2.2)) .bool,
    field "traits" true (·.2.2.2) (fun s x => (s.1, s.2.1, s.2.2.1, some x)) (.list trait)]
  start := (none, none, none, none)
  finish? := fun (name, target, required, traits) => do
    pure ⟨← name, ← target, required.getD false, traits.getD []⟩ }

/-- A kind that carries a record of one field. -/
def kindOfOne {α : Type} (tag variant name : String) (make : α → ShapeKind) (d : Decoder α) :
    Variant ShapeKind :=
  ⟨tag, .record <| RecordForm.decoder {
    expecting := s!"struct variant ShapeKind::{variant}"
    fields := [field name false (fun (s : Option α) => s) (fun _ x => some x) d]
    start := none
    finish? := fun s => s.map make }⟩

def kind : Decoder ShapeKind := Decoder.variant [
  kindOfOne "structure" "Structure" "members" .structure (.list member),
  kindOfOne "union" "Union" "members" .union (.list member),
  kindOfOne "list" "List" "member" .list member,
  kindOfOne "set" "Set" "member" .set member,
  ⟨"map", .record <| RecordForm.decoder {
    expecting := "struct variant ShapeKind::Map"
    fields := [
      field "key" false (·.1) (fun s x => (some x, s.2)) member,
      field "value" false (·.2) (fun s x => (s.1, some x)) member]
    start := (none, none)
    finish? := fun (key, value) => do pure (.map (← key) (← value)) }⟩,
  carrying "primitive" .primitive primitive,
  kindOfOne "enum" "Enum" "values" .enum (.list enumValue)]

def shape : Decoder Shape := RecordForm.decoder {
  expecting := "struct Shape"
  fields := [
    field "id" false (·.1) (fun s x => (some x, s.2)) shapeId,
    field "kind" false (·.2.1) (fun s x => (s.1, some x, s.2.2)) kind,
    field "traits" true (·.2.2) (fun s x => (s.1, s.2.1, some x)) (.list trait)]
  start := (none, none, none)
  finish? := fun (id, kind, traits) => do pure ⟨← id, ← kind, traits.getD []⟩ }

/-- The binding of an operation to a request. -/
def http : Decoder HttpBinding := RecordForm.decoder {
  expecting := "struct HttpTrait"
  fields := [
    field "method" false (·.1) (fun s x => (some x, s.2)) method,
    field "uri" false (·.2) (fun s x => (s.1, some x)) .string]
  start := (none, none)
  finish? := fun (method, uri) => do pure ⟨← method, ← uri⟩ }

def operation : Decoder Operation := RecordForm.decoder {
  expecting := "struct Operation"
  fields := [
    field "id" false (·.1) (fun s x => (some x, s.2)) shapeId,
    field "input" true (·.2.1) (fun s x => (s.1, some x, s.2.2)) (.optional shapeId),
    field "output" true (·.2.2.1) (fun s x => (s.1, s.2.1, some x, s.2.2.2)) (.optional shapeId),
    field "http" true (·.2.2.2.1) (fun s x => (s.1, s.2.1, s.2.2.1, some x, s.2.2.2.2))
      (.optional http),
    field "documentation" true (·.2.2.2.2) (fun s x => (s.1, s.2.1, s.2.2.1, s.2.2.2.1, some x))
      (.optional .string)]
  start := (none, none, none, none, none)
  finish? := fun (id, input, output, http, documentation) => do
    pure ⟨← id, input.join, output.join, http.join, documentation.join⟩ }

def service : Decoder Service := RecordForm.decoder {
  expecting := "struct Service"
  fields := [
    field "id" false (·.1) (fun s x => (some x, s.2)) shapeId,
    field "version" false (·.2.1) (fun s x => (s.1, some x, s.2.2)) .string,
    field "operations" false (·.2.2.1) (fun s x => (s.1, s.2.1, some x, s.2.2.2)) (.list shapeId),
    field "protocol" true (·.2.2.2.1) (fun s x => (s.1, s.2.1, s.2.2.1, some x, s.2.2.2.2))
      (.optional protocol),
    field "documentation" true (·.2.2.2.2) (fun s x => (s.1, s.2.1, s.2.2.1, s.2.2.2.1, some x))
      (.optional .string)]
  start := (none, none, none, none, none)
  finish? := fun (id, version, operations, protocol, documentation) => do
    pure ⟨← id, ← version, ← operations, protocol.join, documentation.join⟩ }

/-- The three arrays of a document. -/
structure Lists where
  shapes : List Shape
  operations : List Operation
  services : List Service
deriving DecidableEq

/-- The three arrays, each of which may be left out. -/
def lists : Decoder Lists := RecordForm.decoder {
  expecting := "struct ModelDocument"
  fields := [
    field "shapes" true (·.1) (fun s x => (some x, s.2)) (.list shape),
    field "operations" true (·.2.1) (fun s x => (s.1, some x, s.2.2)) (.list operation),
    field "services" true (·.2.2) (fun s x => (s.1, s.2.1, some x)) (.list service)]
  start := (none, none, none)
  finish? := fun (shapes, operations, services) =>
    some ⟨shapes.getD [], operations.getD [], services.getD []⟩ }

end Decode

/-- The model of the three arrays of a document. -/
def Model.ofDocument (d : Decode.Lists) : Except ModelError Model :=
  Model.ofLists d.shapes d.operations d.services

/-- Loads a model from the text of a document. -/
def Model.ofJson (text : String) : Except ModelError Model :=
  match Decode.lists.run text with
  | .ok d => Model.ofDocument d
  | .error e => .error (.json e)

/-! ## Writing -/

def nullable (v : Option Value) : Value := v.getD .null

namespace Trait

def toJson : Trait → Value
  | boxed => .string "boxed"
  | default v => .object [("default", v)]
  | sparse => .string "sparse"
  | wrapped => .string "wrapped"
  | jsonName n => .object [("jsonName", .string n)]
  | httpLabel => .string "httpLabel"
  | httpQuery n => .object [("httpQuery", .string n)]
  | httpHeader n => .object [("httpHeader", .string n)]
  | httpPayload => .string "httpPayload"
  | documentation t => .object [("documentation", .string t)]

end Trait

/-- The field of the traits, unless there are none. -/
def Traits.field (ts : Traits) : List (String × Value) :=
  if ts.isEmpty then [] else [("traits", .array (ts.map Trait.toJson))]

def EnumValue.toJson (v : EnumValue) : Value :=
  .object [("name", .string v.name), ("value", .string v.value)]

def Member.toJson (m : Member) : Value :=
  .object ([("name", .string m.name), ("target", .string m.target.text),
    ("required", .bool m.required)] ++ m.traits.field)

def ShapeKind.toJson : ShapeKind → Value
  | .structure ms => .object [("structure", .object [("members", .array (ms.map Member.toJson))])]
  | .union ms => .object [("union", .object [("members", .array (ms.map Member.toJson))])]
  | .list m => .object [("list", .object [("member", m.toJson)])]
  | .set m => .object [("set", .object [("member", m.toJson)])]
  | .map k v => .object [("map", .object [("key", k.toJson), ("value", v.toJson)])]
  | .primitive p => .object [("primitive", .string p.text)]
  | .enum vs => .object [("enum", .object [("values", .array (vs.map EnumValue.toJson))])]

def Shape.toJson (s : Shape) : Value :=
  .object ([("id", .string s.id.text), ("kind", s.kind.toJson)] ++ s.traits.field)

def HttpBinding.toJson (h : HttpBinding) : Value :=
  .object [("method", .string h.method.text), ("uri", .string h.uri)]

def Operation.toJson (o : Operation) : Value :=
  .object [("id", .string o.id.text),
    ("input", nullable (o.input.map fun i => .string i.text)),
    ("output", nullable (o.output.map fun i => .string i.text)),
    ("http", nullable (o.http.map HttpBinding.toJson)),
    ("documentation", nullable (o.documentation.map .string))]

def Service.toJson (s : Service) : Value :=
  .object [("id", .string s.id.text), ("version", .string s.version),
    ("operations", .array (s.operations.map fun i => .string i.text)),
    ("protocol", nullable (s.protocol.map fun p => .string p.text)),
    ("documentation", nullable (s.documentation.map .string))]

namespace Model

/-- The document of the model as a value. -/
def toDocument (m : Model) : Value :=
  .object [("shapes", .array (m.shapes.entries.map Shape.toJson)),
    ("operations", .array (m.operations.entries.map Operation.toJson)),
    ("services", .array (m.services.entries.map Service.toJson))]

def toJson (m : Model) : String := m.toDocument.pretty

end Model

end ClientGen
