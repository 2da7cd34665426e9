import ClientGen.Json.Printer
import ClientGen.Middleware.Step
import ClientGen.Model.Basic

/-!
# What can stop a run

Every error is final: a run that fails writes no file. Errors are kept as causes; their wording is
in `message`, and `debug` is the form in which a program that ends with an error shows it.
-/

namespace ClientGen

inductive Role
  | input
  | output
deriving DecidableEq

/-- The role as a message names it. -/
def Role.text : Role → String
  | input => "input"
  | output => "output"

/-- Where a reference stands that leads nowhere. -/
inductive Referrer
  /-- The settings of the run. -/
  | settings
  /-- The operation list of a service. -/
  | service (id : ShapeId)
  /-- The input or output of an operation. -/
  | role (role : Role) (operation : ShapeId)
  /-- The input or output of an operation, in the walk over the shapes. -/
  | operation (id : ShapeId)
  /-- A member of a shape. -/
  | member (owner : ShapeId) (name : String)
  /-- The shape that owns a member, by its name. -/
  | owner (name : String)
  /-- The codec of a member. -/
  | codec (member : String)
  /-- A part of the run. -/
  | stage (name : String)
deriving DecidableEq

/-- The referrer as a message names it. -/
def Referrer.text : Referrer → String
  | settings => "generator settings"
  | service id => s!"service {id}"
  | role r op => s!"{r.text} of {op}"
  | operation id => s!"operation {id}"
  | member shape name => s!"{shape}${name}"
  | owner name => name
  | codec name => s!"codec for '{name}'"
  | stage name => name

/-- Why no finite code can be made of the shapes. -/
inductive GraphFault
  | notStructure (role : Role) (operation : ShapeId)
  | duplicateMember (name : String)
  /-- Two members become one identifier. -/
  | clashingMember (name : String)
  | mapKey (key : ShapeId)
  | requiredCycle
  | collectionCycle
  | unsupportedKey (key : ShapeId)
deriving DecidableEq

/-- The fault as a message names it. -/
def GraphFault.text : GraphFault → String
  | notStructure r op => s!"operation {r.text} {op} must be a structure"
  | duplicateMember name => s!"duplicate member name '{name}'"
  | clashingMember name => s!"member '{name}' maps to the same Rust identifier as another member"
  | mapKey key => s!"map key {key} must be a string, enum, or integer shape"
  | requiredCycle => "cycle through required structure members"
  | collectionCycle => "collection contains itself"
  | unsupportedKey key => s!"unsupported map key shape {key}"

/-- How scopes are out of balance. -/
inductive ScopeFault
  /-- A footer without an open scope. -/
  | neverOpened (footer : String)
  /-- Scopes that are open at the end. -/
  | stillOpen (count : Nat) (innermost : String)
deriving DecidableEq

/-- The fault as a message names it. -/
def ScopeFault.text : ScopeFault → String
  | neverOpened footer => s!"'{footer}' closes a scope that was never opened"
  | stillOpen count innermost => s!"{count} scope(s) still open, innermost '{innermost}'"

/-- What the settings, the bindings or the defaults of a run ask for and cannot have. -/
inductive ConfigFault
  | crateName (name : String)
  | crateVersion (version : String)
  | noProtocol (service : ShapeId)
  | unsupportedDefault (value : Json.Value) (shape : ShapeId)
  | unterminatedLabel (template : String) (operation : ShapeId)
  | emptyLabel (template : String) (operation : ShapeId)
  | unboundLabel (label : String) (operation : ShapeId)
  | unusedLabel (member : String) (input : ShapeId)
  | notScalar (target : ShapeId)
  /-- The name of a field has not the form of an identifier. -/
  | fieldName (field : String)
  | fieldType (field : String)
  | fieldDefault (field : String)
  | unknownModel (source : String) (known : List String)
  | unreadableModel (path reason : String)
  | noService
  | manyServices (ids : List ShapeId)
deriving DecidableEq

/-- The fault as a message names it. -/
def ConfigFault.text : ConfigFault → String
  | crateName name =>
    s!"invalid crate name '{name}': use ASCII letters, digits, '-' and '_', starting with a letter"
  | crateVersion version => s!"invalid crate version '{version}': expected MAJOR.MINOR.PATCH"
  | noProtocol service => s!"service {service} declares no protocol and none was configured"
  | unsupportedDefault value shape =>
    s!"Unsupported default value {value.compact} for shape {shape}"
  | unterminatedLabel template op => s!"unterminated label in URI '{template}' of {op}"
  | emptyLabel template op => s!"empty label in URI '{template}' of {op}"
  | unboundLabel label op => s!"URI label '{label}' of {op} has no httpLabel input member"
  | unusedLabel member input =>
    s!"httpLabel member '{member}' of {input} does not appear in the URI"
  | notScalar target => s!"{target} cannot be bound to a URI, query, or header value"
  | fieldName field => s!"name of config field '{field}'"
  | fieldType field => s!"type of config field '{field}'"
  | fieldDefault field => s!"default of config field '{field}'"
  | unknownModel source known =>
    s!"Unknown model: '{source}'. Available built-in models: " ++ ", ".intercalate known ++
      "; or pass a path to a model JSON file"
  | unreadableModel path reason => s!"cannot read model file '{path}': {reason}"
  | noService => "the model defines no service"
  | manyServices ids =>
    s!"the model defines {ids.length} services; choose one with --service: " ++
      ", ".intercalate (ids.map ShapeId.text)

/-- Why a file cannot be written. -/
inductive WriteFault
  /-- The destination does not take the file. -/
  | refused
  /-- The system reports an error: its number, its kind and its text. -/
  | system (code : Nat) (kind text : String)
deriving DecidableEq

/-- The fault as a message names it. -/
def WriteFault.text : WriteFault → String
  | refused => "refused"
  | system code _ text => s!"{text} (os error {code})"

inductive GenerationError
  | unresolvedShape (id : ShapeId) (from_ : Referrer)
  | duplicateMiddleware (name stack : String)
  | contradictoryOrder (name : String) (step : Step) (cycle : List String)
  | unknownPeer (name peer : String) (step : Step)
  | unbalancedScope (ns : String) (fault : ScopeFault)
  | invalidGraph (fault : GraphFault) (path : List ShapeId)
  /-- A generated module is not source code. -/
  | invalidModule (ns : String)
  /-- A generated module is source code that has no usual written form. -/
  | unusualModule (ns : String)
  | write (path : String) (fault : WriteFault)
  | config (fault : ConfigFault)
  | model (e : ModelError)
deriving DecidableEq

namespace GenerationError

/-- The name of the kind of error. -/
def kind : GenerationError → String
  | unresolvedShape .. => "UnresolvedShape"
  | duplicateMiddleware .. => "DuplicateMiddlewareName"
  | contradictoryOrder .. => "ContradictoryMiddlewareOrder"
  | unknownPeer .. => "UnknownMiddlewarePeer"
  | unbalancedScope .. => "UnbalancedScope"
  | invalidGraph .. => "InvalidShapeGraph"
  | invalidModule .. | unusualModule .. => "CodeGenError"
  | write .. => "WriteError"
  | config .. => "ConfigError"
  | model .. => "Model"

/-- Literals in brackets, as lists are shown. -/
def showList (texts : List String) : String :=
  "[" ++ ", ".intercalate (texts.map Text.literal) ++ "]"

def message : GenerationError → String
  | unresolvedShape id from_ => s!"Unresolved shape '{id}' (referenced from {from_.text})"
  | duplicateMiddleware name stack => s!"Duplicate middleware '{name}' in stack '{stack}'"
  | contradictoryOrder name step cycle =>
    s!"Contradictory ordering for middleware '{name}' in step '{step.text}': " ++
      s!"constraints form a cycle through {showList cycle}"
  | unknownPeer name peer step =>
    s!"Middleware '{name}' is positioned relative to '{peer}', which is not registered in step " ++
      s!"'{step.text}'"
  | unbalancedScope ns fault => s!"Unbalanced scope in '{ns}': {fault.text}"
  | invalidGraph fault path =>
    s!"Invalid shape graph: {fault.text} (path: " ++ " -> ".intercalate (path.map ShapeId.text)
      ++ ")"
  | invalidModule ns => s!"Code generation failed: Generated module '{ns}' is invalid"
  | unusualModule ns =>
    s!"Code generation failed: Generated module '{ns}' has no usual written form"
  | write path fault => s!"Failed to write output file '{path}': {fault.text}"
  | config fault => s!"Invalid configuration: {fault.text}"
  | model e => s!"Failed to load model: {e.message}"

/-! ## The form in which a failing program shows an error -/

/-- A value with named fields. -/
def showRecord (name : String) (fields : List (String × String)) : String :=
  name ++ " \x7b " ++ ", ".intercalate (fields.map fun (field, value) => s!"{field}: {value}")
    ++ " \x7d"

def showCase (name value : String) : String := s!"{name}({value})"

def showId (id : ShapeId) : String :=
  showRecord "ShapeId" [("namespace", Text.literal id.ns), ("name", Text.literal id.name)]

def showWriteFault : WriteFault → String
  | .refused => showRecord "Custom" [("kind", "Other"), ("error", Text.literal "refused")]
  | .system code kind text =>
    showRecord "Os" [("code", toString code), ("kind", kind), ("message", Text.literal text)]

/-- The error of a document; what is wrong with its text is not shown. -/
def showModelError : ModelError → String
  | .invalidShapeId text => showCase "InvalidShapeId" (Text.literal text)
  | .duplicateDefinition id => showCase "DuplicateDefinition" (showId id)
  | .json _ => showCase "Json" ".."

/-- The error with all that it holds. -/
def debug (e : GenerationError) : String :=
  match e with
  | unresolvedShape id from_ =>
    showRecord e.kind [("id", showId id), ("referenced_from", Text.literal from_.text)]
  | duplicateMiddleware name stack =>
    showRecord e.kind [("name", Text.literal name), ("stack", Text.literal stack)]
  | contradictoryOrder name step cycle =>
    showRecord e.kind [("name", Text.literal name), ("step", Text.literal step.text),
      ("cycle", showList cycle)]
  | unknownPeer name peer step =>
    showRecord e.kind [("name", Text.literal name), ("peer", Text.literal peer),
      ("step", Text.literal step.text)]
  | unbalancedScope ns fault =>
    showRecord e.kind [("namespace", Text.literal ns), ("detail", Text.literal fault.text)]
  | invalidGraph fault path =>
    showRecord e.kind [("reason", Text.literal fault.text),
      ("path", showList (path.map ShapeId.text))]
  | invalidModule ns => showCase e.kind (Text.literal s!"Generated module '{ns}' is invalid")
  | unusualModule ns =>
    showCase e.kind (Text.literal s!"Generated module '{ns}' has no usual written form")
  | write path fault =>
    showRecord e.kind [("path", Text.literal path), ("source", showWriteFault fault)]
  | config fault => showCase e.kind (Text.literal fault.text)
  | model inner => showCase e.kind (showModelError inner)

end GenerationError

end ClientGen
