import ClientGen.Codec.Emission
import ClientGen.Crate.Client
import ClientGen.Crate.Types
import ClientGen.Protocol.Emission

/-!
# The modules of the types and of the client, written call by call

A module that is being written is passed from one call to the next, through all shapes of a model or
all operations of a service, and finished at the end. This is an error where a scope is open still,
as it is one on the way to close a scope that is not open.
-/

namespace ClientGen

/-! ## Enums -/

namespace Shape

def writeEnumType (s : Shape) (values : List EnumValue) (w : Writer) :
    Except GenerationError Writer := do
  let w := w.writeDocs s.traits.documentation?
  let w := w.writeDerives ["Debug", "Clone", "PartialEq", "Eq", "Hash", "PartialOrd", "Ord"]
  let w := w.openEnum s.generatedName
  let w := values.foldl (fun w v => w.write s!"{v.variant},") w
  let w := w.writeDoc "A value this client does not know."
  let w := w.write s!"{unknownVariant values}(String),"
  let w ← w.closeScope "\x7d"
  .ok w.writeBlank

def writeEnumValues (s : Shape) (values : List EnumValue) (w : Writer) :
    Except GenerationError Writer := do
  let w := w.openImpl none s.generatedName
  let w := w.writeDoc "Every known wire value, in declaration order."
  let w := w.writeConstant "VALUES" "&'static [&'static str]" (values.map fun v => .literal v.value)
  let w := w.writeBlank
  let w := w.openFunction true ⟨"as_str", ["&self"], "&str", []⟩
  let w := w.openMatch (.source "self")
  let w := values.foldl (fun w v =>
    w.writeArm (.value (.source s!"Self::{v.variant}") (.literal v.value))) w
  let w := w.writeArm (.value (.variant s!"Self::{unknownVariant values}" "value")
    (.method (.source "value") "as_str" []))
  let w ← w.closeScope "\x7d"
  let w ← w.closeScope "\x7d"
  let w ← w.closeScope "\x7d"
  .ok w.writeBlank

def writeEnumFrom (s : Shape) (values : List EnumValue) (w : Writer) :
    Except GenerationError Writer := do
  let w := w.openImpl (some "From<&str>") s.generatedName
  let w := w.openFunction false ⟨"from", ["value: &str"], "Self", []⟩
  let w := w.openMatch (.source "value")
  let w := values.foldl (fun w v =>
    w.writeArm (.value (.literal v.value) (.source s!"Self::{v.variant}"))) w
  let w := w.writeArm (.value (.name "other")
    (.call s!"Self::{unknownVariant values}" [(Expr.source "other").toOwned]))
  let w ← w.closeScope "\x7d"
  let w ← w.closeScope "\x7d"
  let w ← w.closeScope "\x7d"
  .ok w.writeBlank

def writeEnumDisplay (s : Shape) (w : Writer) : Except GenerationError Writer := do
  let w := w.openImpl (some "std::fmt::Display") s.generatedName
  let w := w.openFunction false
    ⟨"fmt", ["&self", "f: &mut std::fmt::Formatter<'_>"], "std::fmt::Result", []⟩
  let w := w.writeStmt (.result
    (.method (.source "f") "write_str" [.method (.source "self") "as_str" []]))
  let w ← w.closeScope "\x7d"
  let w ← w.closeScope "\x7d"
  .ok w.writeBlank

def writeEnum (s : Shape) (values : List EnumValue) (w : Writer) :
    Except GenerationError Writer := do
  let w ← s.writeEnumType values w
  let w ← s.writeEnumValues values w
  let w ← s.writeEnumFrom values w
  s.writeEnumDisplay w

end Shape

namespace Model

/-! ## Structures and unions -/

/-- Writes the field for a member of a structure. -/
def writeStructField (m : Model) (s : Shape) (w : Writer) (e : Member) :
    Except GenerationError Writer := do
  let symbol ← m.memberSymbol modelNamespace s.id e
  let w := w.provide (.type symbol)
  let w := w.writeDocs e.traits.documentation?
  .ok (w.write s!"pub {Naming.fieldName e.name}: {symbol.declaredType},")

def writeStructureType (m : Model) (s : Shape) (w : Writer) : Except GenerationError Writer := do
  let w := w.writeDocs s.traits.documentation?
  let w := w.writeDerives recordDerives
  let w := w.openStruct s.generatedName
  let w ← s.members.foldlM (m.writeStructField s) w
  let w ← w.closeScope "\x7d"
  .ok w.writeBlank

/-- Writes the variant for a member of a union. -/
def writeUnionVariant (m : Model) (s : Shape) (w : Writer) (e : Member) :
    Except GenerationError Writer := do
  let symbol ← m.memberSymbol modelNamespace s.id e
  let w := w.provide (.type symbol)
  let w := w.writeDocs e.traits.documentation?
  .ok (w.write s!"{Naming.typeName e.name}({symbol.declaredType}),")

def writeUnionType (m : Model) (s : Shape) (w : Writer) : Except GenerationError Writer := do
  let w := w.writeDocs s.traits.documentation?
  let w := w.writeDerives recordDerives
  let w := w.openEnum s.generatedName
  let w ← s.members.foldlM (m.writeUnionVariant s) w
  let w := w.writeDoc "A variant this client does not know, with its wire key."
  let w := w.write "Unknown(String),"
  let w ← w.closeScope "\x7d"
  .ok w.writeBlank

/-! ## The module of the types -/

def writeShape (m : Model) (w : Writer) (id : ShapeId) : Except GenerationError Writer := do
  let s ← m.resolveShape id (.stage "model generation")
  match s.kind with
  | .structure _ => do
    let w ← m.writeStructureType s w
    let w ← s.writeCodingKeys w
    m.writeStructureCodec s w
  | .union _ => do
    let w ← m.writeUnionType s w
    let w ← s.writeCodingKeys w
    m.writeUnionCodec s w
  | .enum values => s.writeEnum values w
  | .list _ | .set _ | .map .. | .primitive _ => do
    let symbol ← m.symbol modelNamespace id
    .ok (w.register symbol none)

/-- Writes the module of the types of some shapes. -/
def writeTypes (m : Model) (shapes : List ShapeId) : Except GenerationError SourceUnit := do
  let w := Writer.new modelNamespace
  let w := w.moduleDoc "Data types exchanged with the service, with their wire codecs."
  let w := w.importAs "crate" "wire" none
  let w := w.importAs "crate::wire" "DecodeError" none
  let w := w.require .json
  let w ← shapes.foldlM m.writeShape w
  w.finalize

/-! ## Methods -/

/-- Provides the types in the head of a method, and gives the head. -/
def provideSignature (m : Model) (o : OperationShapes) (w : Writer) :
    Except GenerationError (Writer × Signature) := do
  let signature ← m.methodSignature o
  .ok (signature.types.foldl (fun w s => w.register s none) w, signature)

/-- Writes the line for an operation in the interface. -/
def writeMethodHead (m : Model) (w : Writer) (o : OperationShapes) :
    Except GenerationError Writer := do
  let w := w.writeDocs o.operation.documentation
  let (w, signature) ← m.provideSignature o w
  .ok (w.write s!"{signature.text};")

/-- Writes the statements that add the entries to a stack. -/
def writeStack (r : Registry) (operation : ShapeId) (stack : String) (w : Writer) :
    Except GenerationError Writer := do
  let order ← r.resolve
  .ok (order.foldl (fun w d => w.writeStmt (Registry.push operation stack d)) w)

def writeRequest (m : Model) (p : Protocol) (o : OperationShapes) (w : Writer) :
    Except GenerationError Writer :=
  let c : Call := ⟨o.operation, o.input⟩
  match p with
  | .restJson => c.writeRestRequest m w
  | .rpcJson => .ok (c.writeRpcRequest w)

def writeMethod (m : Model) (p : Protocol) (r : Registry) (w : Writer) (o : OperationShapes) :
    Except GenerationError Writer := do
  let (w, signature) ← m.provideSignature o w
  let w := w.openFunction false signature
  let w := w.writeStmt (.bindMut "stack"
    (.call "OperationStack::new" [.literal o.operation.id.name]))
  let w ← writeStack r o.operation.id "stack" w
  let w ← m.writeRequest p o w
  let w := (bindResponse o.output).foldl Writer.writeStmt w
  w.closeScope "\x7d"

/-! ## The module of the client -/

def writeInterface (m : Model) (s : Service) (operations : List OperationShapes) (w : Writer) :
    Except GenerationError Writer := do
  let w := w.writeDoc (s.documentation.getD s!"Operations of the `{s.id.name}` service.")
  let w := w.openInterface s.apiName
  let w ← w.writeSeparated m.writeMethodHead operations
  let w ← w.closeScope "\x7d"
  .ok w.writeBlank

/-- Writes the type that implements the interface, with its constructor. -/
def writeClientType (s : Service) (w : Writer) : Except GenerationError Writer := do
  let w := w.writeDoc
    s!"Default [`{s.apiName}`] implementation sending requests through a [`Transport`]."
  let w := w.openStruct s.clientName
  let w := w.write "config: Config,"
  let w := w.write "transport: Box<dyn Transport>,"
  let w ← w.closeScope "\x7d"
  let w := w.writeBlank
  let w := w.openImpl none s.clientName
  let w := w.openFunction true
    ⟨"new", ["config: Config", "transport: impl Transport + 'static"], "Self", []⟩
  let w := w.openConstruct false
  let w := w.writeField "config" none
  let w := w.writeField "transport" (some (.call "Box::new" [.source "transport"]))
  let w ← w.closeScope "\x7d"
  let w ← w.closeScope "\x7d"
  let w := w.writeBlank
  let w := w.openFunction true ⟨"config", ["&self"], "&Config", []⟩
  let w := w.writeStmt (.result (.source "&self.config"))
  let w ← w.closeScope "\x7d"
  let w ← w.closeScope "\x7d"
  .ok w.writeBlank

def writeImplementation (m : Model) (s : Service) (p : Protocol) (r : Registry)
    (operations : List OperationShapes) (w : Writer) : Except GenerationError Writer := do
  let w := w.openImpl (some s.apiName) s.clientName
  let w ← w.writeSeparated (m.writeMethod p r) operations
  let w ← w.closeScope "\x7d"
  .ok w.writeBlank

/-- Writes the module of the client of a service. -/
def writeClient (m : Model) (s : Service) (p : Protocol) : Except GenerationError SourceUnit := do
  let registry ← p.registry s.id.name
  let w := Writer.new "crate::client"
  let w := w.moduleDoc
    s!"Client for the `{s.id.name}` service (version {s.version}, protocol {p.text})."
  let w := w.importAs "crate::config" "Config" none
  let w := w.importAs "crate::error" "ClientError" none
  let runtime := ["HttpRequest", "OperationStack", "Step", "Transport"] ++ p.runtimeImports
  let w := runtime.foldl (fun w name => w.importAs "crate::runtime" name none) w
  let operations ← s.operations.mapM (m.operationShapes s)
  let w ← m.writeInterface s operations w
  let w ← writeClientType s w
  let w ← m.writeImplementation s p registry operations w
  w.finalize

end Model

end ClientGen
