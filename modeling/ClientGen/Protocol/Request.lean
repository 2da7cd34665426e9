import ClientGen.Codec.Encode
import ClientGen.Codec.Keys
import ClientGen.Protocol.Uri

/-!
# Statements that bind the input of an operation to a request

Under bindings, a member goes into the path, the query, a header or the payload as its traits say,
and all other members go into the body. Remote calls send the whole input as the body.
-/

namespace ClientGen

/-- What is bound to a request: the operation and its input, if it has one. -/
structure Call where
  operation : Operation
  input : Option Shape

namespace Call

/-- The field of the input for a member. -/
def place (e : Member) : Expr := (Expr.source "input").field (Naming.fieldName e.name)

def ofRole (e : Member) (role : String) : String := s!"{Naming.tempStem e.name}_{role}"

def onRequest (method : String) (args : List Expr) : Expr := .method (.source "request") method args

def setJsonBody (e : Expr) : Stmt := .run (onRequest "set_json_body" [e.borrow]).propagate

def addQuery (name : String) (value : Expr) : Stmt :=
  .run (onRequest "add_query" [.literal name, value])

def setHeader (name : String) (value : Expr) : Stmt :=
  .run (.method (.field (.source "request") "headers") "insert" [.literal name, value])

def encodedInput : Expr := .method (.source "input") "encode" []

def newRequest (mutable : Bool) (method : HttpMethod) (path : Expr) : Stmt :=
  let value := Expr.call "HttpRequest::new" [.source s!"Method::{method.variant}", path]
  if mutable then .bindMut "request" value else .bind "request" value

/-! ## Scalars -/

structure ScalarText where
  needs : List Stmt
  text : Expr

/-- The text for a value of a scalar shape. The value is a reference where `byRef` holds, and a
place otherwise. -/
def scalarText (m : Model) (target : ShapeId) (value : Expr) (byRef : Bool) :
    Except GenerationError ScalarText := do
  let s ← m.resolveShape target (.stage "HTTP binding")
  let reference := if byRef then value else value.borrow
  let wire : List Stmt := [.need (.item "crate" "wire")]
  match s.kind with
  | .primitive .timestamp => .ok ⟨wire, (Wire.call "encode_timestamp" reference).toOwned⟩
  | .primitive .blob =>
    .ok ⟨wire, (Expr.method (.method (Wire.call "encode_blob" reference) "as_str" [])
      "unwrap_or_default" []).toOwned⟩
  | .primitive _ | .enum _ => .ok ⟨[], value.toOwned⟩
  | _ => .error (.config (.notScalar target))

/-- The element of a list or set, and whether elements may be absent. -/
def listElement? (m : Model) (target : ShapeId) :
    Except GenerationError (Option (Member × Bool)) := do
  let s ← m.resolveShape target (.stage "HTTP binding")
  match s.kind with
  | .list e | .set e => .ok (some (e, s.traits.isSparse))
  | _ => .ok none

def elements (list : Expr) (sparse : Bool) : Expr :=
  let all := list.method "iter" []
  if sparse then all.method "flatten" [] else all

/-! ## Labels -/

/-- The encoded text of a label; a greedy one keeps its slashes. -/
def encodeLabel (text : Expr) (greedy : Bool) : Expr :=
  let encoded := Expr.call "percent_encode" [text.borrow]
  if greedy then encoded.method "replace" [.literal "%2F", .literal "/"] else encoded

def labelMember? (c : Call) (name : String) : Option (Shape × Member) := do
  let input ← c.input
  let e ← input.members.find? fun e => e.name == name && e.traits.isHttpLabel
  pure (input, e)

/-- Binds the text of a label: the statements, and the local. -/
def bindLabel (m : Model) (c : Call) (name : String) (greedy : Bool) :
    Except GenerationError (List Stmt × String) := do
  match c.labelMember? name with
  | none => .error (.config (.unboundLabel name c.operation.id))
  | some (input, e) =>
    let symbol ← m.memberSymbol modelNamespace input.id e
    let binding := ofRole e "label"
    if symbol.nullable then do
      let t ← scalarText m e.target (.source "value") true
      let missing := (Expr.literal s!"missing URI label '{e.name}'").toOwned
      pure (t.needs ++ [.bindMatch (.name binding) (place e).borrow
        [.value (.some "value") (encodeLabel t.text greedy),
          .value (.source "None")
            (.call "return Err" [.call "ClientError::InvalidRequest" [missing]])]], binding)
    else do
      let t ← scalarText m e.target (place e) false
      pure (t.needs ++ [.bind binding (encodeLabel t.text greedy)], binding)

/-- Binds all labels: the statements, and the locals in the order of the labels. -/
def bindLabels (m : Model) (c : Call) :
    List UriSegment → Except GenerationError (List Stmt × List String)
  | [] => .ok ([], [])
  | .literal _ :: rest => bindLabels m c rest
  | .label name greedy :: rest => do
    let (stmts, binding) ← bindLabel m c (String.ofList name) greedy
    let (restStmts, bindings) ← bindLabels m c rest
    pure (stmts ++ restStmts, binding :: bindings)

def hasLabel (segments : List UriSegment) (name : String) : Bool :=
  segments.any fun
    | .label label _ => String.ofList label == name
    | .literal _ => false

/-- The first member that is to go into the path and has no label there. -/
def unusedLabel? (c : Call) (segments : List UriSegment) : Option (Shape × Member) := do
  let input ← c.input
  let e ← input.members.find? fun e => e.traits.isHttpLabel && !hasLabel segments e.name
  pure (input, e)

/-- The path of the request: the statements for its labels, and the expression. -/
def path (m : Model) (c : Call) (segments : List UriSegment) :
    Except GenerationError (List Stmt × Expr) := do
  let (stmts, bindings) ← bindLabels m c segments
  match c.unusedLabel? segments with
  | some (input, e) => .error (.config (.unusedLabel e.name input.id))
  | none =>
    if bindings.isEmpty then
      pure (stmts, .literal (String.ofList (UriSegment.literalText segments)))
    else
      let template := Expr.literal (String.ofList (UriSegment.formatTemplate segments))
      pure (stmts ++ [.need (.item "crate::runtime" "percent_encode")],
        .call "format!" (template :: bindings.map .source))

/-! ## Query and headers -/

/-- Statements for the value of a member, if it is there. `body` is given the value and whether it
is a reference. -/
def withMember (m : Model) (input : Shape) (e : Member) (role : String)
    (body : Expr → Bool → Except GenerationError (List Stmt)) :
    Except GenerationError (List Stmt) := do
  let symbol ← m.memberSymbol modelNamespace input.id e
  if symbol.nullable then
    pure [.ifLet (.some (ofRole e role)) (place e).borrow (← body (.source (ofRole e role)) true)]
  else body (place e) false

/-- Adds a member to the query, each element by itself if it is a list. -/
def bindQuery (m : Model) (input : Shape) (e : Member) (name : String) :
    Except GenerationError (List Stmt) :=
  withMember m input e "query" fun value byRef => do
    match ← listElement? m e.target with
    | some (element, sparse) => do
      let item := ofRole e "item"
      let t ← scalarText m element.target (.source item) true
      pure (t.needs ++ [.forIn (.name item) (elements value sparse) [addQuery name t.text]])
    | none => do
      let t ← scalarText m e.target value byRef
      pure (t.needs ++ [addQuery name t.text])

/-- Sends a member as a header, its elements joined if it is a list. -/
def bindHeader (m : Model) (input : Shape) (e : Member) (name : String) :
    Except GenerationError (List Stmt) :=
  withMember m input e "header" fun value byRef => do
    match ← listElement? m e.target with
    | some (element, sparse) => do
      let item := ofRole e "item"
      let values := ofRole e "values"
      let t ← scalarText m element.target (.source item) true
      let texts := ((elements value sparse).method "map"
        [.source s!"|{item}| {t.text.text}"]).method "collect" []
      pure (t.needs ++ [.bindTyped values "Vec<String>" texts,
        setHeader name (.method (.source values) "join" [.literal ", "])])
    | none => do
      let t ← scalarText m e.target value byRef
      pure (t.needs ++ [setHeader name t.text])

/-! ## The body -/

/-- Sends a member as the whole body: raw if it is a string or binary data, as JSON otherwise. -/
def bindPayload (m : Model) (input : Shape) (e : Member) : Except GenerationError (List Stmt) := do
  let target ← m.resolveShape e.target (.stage "HTTP payload")
  let symbol ← m.memberSymbol modelNamespace input.id e
  let p := CodecPath.ofMember e.name
  let present := p.ofRole "present"
  let owned := if symbol.nullable then (Expr.source present).deref.group else place e
  let reference := if symbol.nullable then Expr.source present else (place e).borrow
  let body := Expr.field (.source "request") "body"
  let stmts ← match target.kind with
    | .structure _ | .union _ => .ok [setJsonBody (owned.method "encode" [])]
    | .primitive .blob =>
      .ok [setHeader "Content-Type" (.literal "application/octet-stream"),
        .assign body (owned.method "clone" [])]
    | .primitive .string =>
      .ok [setHeader "Content-Type" (.literal "text/plain; charset=utf-8"),
        .assign body ((owned.method "clone" []).method "into_bytes" [])]
    | _ => do
      let inner ← m.encode p [] e.target reference (p.ofRole "wire")
      .ok (.need (.item "crate" "wire") :: inner ++ [setJsonBody (.source (p.ofRole "wire"))])
  if symbol.nullable then pure [.ifLet (.some present) (place e).borrow stmts] else pure stmts

/-- Sends the members that are not bound elsewhere as the body. -/
def bindBody (input : Shape) (bound : List Member) : List Stmt :=
  if bound.length = input.members.length then []
  else if bound.isEmpty then [setJsonBody encodedInput]
  else
    [.need (.item modelNamespace input.codingKeysName),
      .bindMut "body" encodedInput,
      .ifLet (.variant "serde_json::Value::Object" "fields") (.source "&mut body")
        (bound.map fun e => .run (.method (.source "fields") "remove" [input.keyExpr e])),
      setJsonBody (.source "body")]

/-! ## Whole requests -/

/-- Where a member of the input goes. -/
inductive Destination
  | label
  | query (name : String)
  | header (name : String)
  | payload
  | body

/-- Where a member of the input goes; of several traits the first of these counts. -/
def destination (e : Member) : Destination :=
  if e.traits.isHttpLabel then .label
  else match e.traits.httpQuery?, e.traits.httpHeader? with
    | some name, _ => .query name
    | none, some name => .header name
    | none, none => if e.traits.isHttpPayload then .payload else .body

/-- Whether a member goes neither into the payload nor into the body. -/
def isBound (e : Member) : Bool :=
  match destination e with
  | .label | .query _ | .header _ => true
  | .payload | .body => false

def isPayload (e : Member) : Bool := match destination e with | .payload => true | _ => false

/-- The statements for a member by itself. -/
def bindMember (m : Model) (input : Shape) (e : Member) : Except GenerationError (List Stmt) :=
  match destination e with
  | .query name => bindQuery m input e name
  | .header name => bindHeader m input e name
  | .label | .payload | .body => .ok []

/-- The statements for the members of an input. The last payload is the one that counts. -/
def bindInput (m : Model) (input : Shape) : Except GenerationError (List Stmt) := do
  let each ← input.members.mapM (bindMember m input)
  match (input.members.filter isPayload).getLast? with
  | some e => pure (each.flatten ++ (← bindPayload m input e))
  | none => pure (each.flatten ++ bindBody input (input.members.filter isBound))

/-- The binding of the operation, or the one it has if it says nothing. -/
def http (c : Call) : HttpBinding :=
  c.operation.http.getD ⟨.post, s!"/{c.operation.id.name}"⟩

/-- Binds a request by the traits of the input. -/
def restRequest (m : Model) (c : Call) : Except GenerationError (List Stmt) := do
  let template := UriTemplate.ofText c.http.uri
  let segments ← (UriSegment.ofTemplate template.path.toList).mapError
    (UriSegment.Fault.error template.path c.operation.id)
  let mutable := !template.query.isEmpty
    || c.input.any fun input => input.members.any fun e => !e.traits.isHttpLabel
  let (labels, path) ← c.path m segments
  let members ← match c.input with
    | none => pure []
    | some input => bindInput m input
  pure (labels ++ [.need (.item "crate::runtime" "Method"), newRequest mutable c.http.method path]
    ++ template.query.map (fun (name, value) => addQuery name (.literal value)) ++ members)

/-- Binds a request that sends the whole input. -/
def rpcRequest (c : Call) : List Stmt :=
  [.need (.item "crate::runtime" "Method"), newRequest true .post (.literal "/"),
    setJsonBody (if c.input.isSome then encodedInput else Wire.make "Object" Wire.emptyMap)]

end Call

end ClientGen
