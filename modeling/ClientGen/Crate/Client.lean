import ClientGen.Code.Item
import ClientGen.Protocol.Profile
import ClientGen.Protocol.Request

/-!
# The module of the client

It holds an interface with one method for each operation, and a type that implements it. A method
builds the stack of its operation, binds its input to a request, sends the request through the
stack, and decodes the output.
-/

namespace ClientGen

namespace Service

def apiName (s : Service) : String := s!"{Naming.typeName s.id.name}Api"

/-- The name of the type that implements it. -/
def clientName (s : Service) : String := s!"{Naming.typeName s.id.name}Client"

end Service

structure OperationShapes where
  operation : Operation
  input : Option Shape
  output : Option Shape

namespace Model

/-- The input or output of an operation, if it has one. -/
def roleShape (m : Model) (op : ShapeId) (role : Role) (io : Option ShapeId) :
    Except GenerationError (Option Shape) :=
  match io with
  | none => .ok none
  | some io => (m.resolveShape io (.role role op)).map some

/-- The operation that a service lists, with its shapes. -/
def operationShapes (m : Model) (s : Service) (op : ShapeId) :
    Except GenerationError OperationShapes :=
  match m.operation? op with
  | none => .error (.unresolvedShape op (.service s.id))
  | some o => do
    let input ← m.roleShape op .input o.input
    let output ← m.roleShape op .output o.output
    pure ⟨o, input, output⟩

def symbolOf? (m : Model) : Option Shape → Except GenerationError (Option Symbol)
  | none => .ok none
  | some s => (m.symbol modelNamespace s.id).map some

def methodSignature (m : Model) (o : OperationShapes) : Except GenerationError Signature := do
  let input ← m.symbolOf? o.input
  let output ← m.symbolOf? o.output
  pure
    { name := Naming.fieldName o.operation.id.name
      params := "&self" :: (input.map fun s => s!"input: &{s.name}").toList
      result := "Result<" ++ (output.map Symbol.name).getD "()" ++ ", ClientError>"
      types := input.toList ++ output.toList }

/-- Statements that bind the input of an operation to a request. -/
def bindRequest (m : Model) (p : Protocol) (o : OperationShapes) :
    Except GenerationError (List Stmt) :=
  let c : Call := ⟨o.operation, o.input⟩
  match p with
  | .restJson => Call.restRequest m c
  | .rpcJson => .ok (Call.rpcRequest c)

/-- The output of a call on the stack. -/
def bindResponse (output : Option Shape) : List Stmt :=
  let send := (Expr.method (.source "stack") "handle"
    [.source "request", .method (.source "self.transport") "as_ref" []]).propagate
  match output with
  | some s =>
    [.bind "response" send,
      .bind "body" (Expr.method (.source "response") "json_body" []).propagate,
      .result (.call "Ok"
        [(Expr.call s!"{s.generatedName}::decode" [(Expr.source "body").borrow]).propagate])]
  | none => [.run send, .result (.call "Ok" [.source "()"])]

def methodItem (m : Model) (p : Protocol) (r : Registry) (o : OperationShapes) :
    Except GenerationError Associated := do
  let signature ← m.methodSignature o
  let pushes ← r.render o.operation.id "stack"
  let request ← m.bindRequest p o
  let stack := Expr.call "OperationStack::new" [.literal o.operation.id.name]
  pure (.function none false signature
    (.bindMut "stack" stack :: pushes ++ request ++ bindResponse o.output))

/-- The type that implements the interface, with its constructor. -/
def clientItems (s : Service) : List Item :=
  let transport := Symbol.ofName "Box<dyn Transport>" ""
  [.struct
      (some s!"Default [`{s.apiName}`] implementation sending requests through a [`Transport`].")
      [] s.clientName
      [⟨none, false, "config", .ofName "Config" ""⟩, ⟨none, false, "transport", transport⟩],
    .impl none s.clientName
      [.function none true
          ⟨"new", ["config: Config", "transport: impl Transport + 'static"], "Self", []⟩
          [.construct false
            [("config", none), ("transport", some (.call "Box::new" [.source "transport"]))]],
        .function none true ⟨"config", ["&self"], "&Config", []⟩
          [.result (.source "&self.config")]]]

def clientModule (m : Model) (s : Service) (p : Protocol) : Except GenerationError Module := do
  let registry ← p.registry s.id.name
  let operations ← s.operations.mapM (m.operationShapes s)
  let signatures ← operations.mapM fun o => do
    pure (⟨o.operation.documentation, ← m.methodSignature o⟩ : Method)
  let methods ← operations.mapM (m.methodItem p registry)
  let docs := s.documentation.getD s!"Operations of the `{s.id.name}` service."
  let runtime := ["HttpRequest", "OperationStack", "Step", "Transport"] ++ p.runtimeImports
  pure
    { ns := "crate::client"
      docs := s!"Client for the `{s.id.name}` service (version {s.version}, protocol {p.text})."
      needs := [.item "crate::config" "Config", .item "crate::error" "ClientError"]
        ++ runtime.map (.item "crate::runtime")
      items := [.interface (some docs) s.apiName signatures] ++ clientItems s
        ++ [.impl (some s.apiName) s.clientName methods] }

end Model

end ClientGen
