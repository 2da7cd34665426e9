import ClientGen.Codec.Trail
import ClientGen.Protocol.Request

/-!
# Requests, written call by call

What binds the input of an operation to a request is written into the method of the operation line
by line. A member that can be absent is read inside a scope that is opened for it, and closed again
once what it is bound to has been written.
-/

namespace ClientGen

namespace Call

/-! ## Labels -/

/-- Writes what binds the text of a label, and gives the local. -/
def writeLabel (m : Model) (c : Call) (name : String) (greedy : Bool) (w : Writer) :
    Except GenerationError (Writer × String) :=
  match c.labelMember? name with
  | none => .error (.config (.unboundLabel name c.operation.id))
  | some (input, e) => do
    let symbol ← m.memberSymbol modelNamespace input.id e
    let binding := ofRole e "label"
    if symbol.nullable then
      let t ← scalarText m e.target (.source "value") true
      let missing := (Expr.literal s!"missing URI label '{e.name}'").toOwned
      let w := t.needs.foldl Writer.writeStmt w
      let w := w.openBindMatch binding (place e).borrow
      let w := w.writeArm (.value (.some "value") (encodeLabel t.text greedy))
      let w := w.writeArm (.value (.source "None")
        (.call "return Err" [.call "ClientError::InvalidRequest" [missing]]))
      let w ← w.closeScope "\x7d;"
      .ok (w, binding)
    else
      let t ← scalarText m e.target (place e) false
      let w := t.needs.foldl Writer.writeStmt w
      .ok (w.writeStmt (.bind binding (encodeLabel t.text greedy)), binding)

/-- Writes what binds all labels, and gives the locals in the order of the labels. -/
def writeLabels (m : Model) (c : Call) :
    List UriSegment → Writer → Except GenerationError (Writer × List String)
  | [], w => .ok (w, [])
  | .literal _ :: rest, w => writeLabels m c rest w
  | .label name greedy :: rest, w => do
    let (w, binding) ← writeLabel m c (String.ofList name) greedy w
    let (w, bindings) ← writeLabels m c rest w
    .ok (w, binding :: bindings)

/-- Writes what the path of the request needs, and gives the expression for it. -/
def writePath (m : Model) (c : Call) (segments : List UriSegment) (w : Writer) :
    Except GenerationError (Writer × Expr) := do
  let (w, bindings) ← writeLabels m c segments w
  match c.unusedLabel? segments with
  | some (input, e) => .error (.config (.unusedLabel e.name input.id))
  | none =>
    if bindings.isEmpty then
      .ok (w, .literal (String.ofList (UriSegment.literalText segments)))
    else
      let template := Expr.literal (String.ofList (UriSegment.formatTemplate segments))
      .ok (w.provide (.item "crate::runtime" "percent_encode"),
        .call "format!" (template :: bindings.map .source))

/-! ## Query and headers -/

/-- A member that is being read: its value, whether this is a reference, and whether a scope has
been opened for it. -/
structure OpenedMember where
  writer : Writer
  value : Expr
  byRef : Bool
  isOpen : Bool

/-- Opens a scope for a member that can be absent. -/
def openMember (m : Model) (input : Shape) (e : Member) (role : String) (w : Writer) :
    Except GenerationError OpenedMember := do
  let symbol ← m.memberSymbol modelNamespace input.id e
  if symbol.nullable then
    let w := w.openIfLet (.some (ofRole e role)) (place e).borrow
    .ok ⟨w, .source (ofRole e role), true, true⟩
  else .ok ⟨w, place e, false, false⟩

/-- Closes the scope of a member, if one has been opened. -/
def closeMember (isOpen : Bool) (w : Writer) : Except GenerationError Writer :=
  if isOpen then w.closeScope "\x7d" else .ok w

/-- Writes what adds a value to the query, each element by itself if it is a list. -/
def writeQueryValue (m : Model) (e : Member) (name : String) (value : Expr) (byRef : Bool)
    (w : Writer) : Except GenerationError Writer := do
  match ← listElement? m e.target with
  | some (element, sparse) => do
    let item := ofRole e "item"
    let t ← scalarText m element.target (.source item) true
    let w := t.needs.foldl Writer.writeStmt w
    let w := w.openFor (.name item) (elements value sparse)
    let w := w.writeStmt (addQuery name t.text)
    w.closeScope "\x7d"
  | none => do
    let t ← scalarText m e.target value byRef
    let w := t.needs.foldl Writer.writeStmt w
    .ok (w.writeStmt (addQuery name t.text))

def writeQuery (m : Model) (input : Shape) (w : Writer) (e : Member) (name : String) :
    Except GenerationError Writer := do
  let o ← openMember m input e "query" w
  let w ← writeQueryValue m e name o.value o.byRef o.writer
  closeMember o.isOpen w

/-- Writes what sets a header to a value, its elements joined if it is a list. -/
def writeHeaderValue (m : Model) (e : Member) (name : String) (value : Expr) (byRef : Bool)
    (w : Writer) : Except GenerationError Writer := do
  match ← listElement? m e.target with
  | some (element, sparse) => do
    let item := ofRole e "item"
    let values := ofRole e "values"
    let t ← scalarText m element.target (.source item) true
    let texts := ((elements value sparse).method "map"
      [.source s!"|{item}| {t.text.text}"]).method "collect" []
    let w := t.needs.foldl Writer.writeStmt w
    let w := w.writeStmt (.bindTyped values "Vec<String>" texts)
    .ok (w.writeStmt (setHeader name (.method (.source values) "join" [.literal ", "])))
  | none => do
    let t ← scalarText m e.target value byRef
    let w := t.needs.foldl Writer.writeStmt w
    .ok (w.writeStmt (setHeader name t.text))

def writeHeader (m : Model) (input : Shape) (w : Writer) (e : Member) (name : String) :
    Except GenerationError Writer := do
  let o ← openMember m input e "header" w
  let w ← writeHeaderValue m e name o.value o.byRef o.writer
  closeMember o.isOpen w

/-! ## The body -/

/-- Writes what sends a value as the whole body: raw if it is a string or binary data, as JSON
otherwise. `owned` and `reference` stand for the value. -/
def writePayloadValue (m : Model) (e : Member) (target : Shape) (owned reference : Expr)
    (w : Writer) : Except GenerationError Writer :=
  let body := Expr.field (.source "request") "body"
  match target.kind with
  | .structure _ | .union _ => .ok (w.writeStmt (setJsonBody (owned.method "encode" [])))
  | .primitive .blob =>
    let w := w.writeStmt (setHeader "Content-Type" (.literal "application/octet-stream"))
    .ok (w.writeStmt (.assign body (owned.method "clone" [])))
  | .primitive .string =>
    let w := w.writeStmt (setHeader "Content-Type" (.literal "text/plain; charset=utf-8"))
    .ok (w.writeStmt (.assign body ((owned.method "clone" []).method "into_bytes" [])))
  | _ => do
    let t := CodecTrail.ofMember e.name
    let w := w.provide (.item "crate" "wire")
    let c ← m.writeEncode ⟨w, t⟩ e.target reference (t.ofRole "wire")
    .ok (c.writer.writeStmt (setJsonBody (.source (t.ofRole "wire"))))

/-- Writes what sends a member as the whole body, if it is there. -/
def writePayload (m : Model) (input : Shape) (e : Member) (w : Writer) :
    Except GenerationError Writer := do
  let target ← m.resolveShape e.target (.stage "HTTP payload")
  let symbol ← m.memberSymbol modelNamespace input.id e
  let present := (CodecPath.ofMember e.name).ofRole "present"
  let w := if symbol.nullable then w.openIfLet (.some present) (place e).borrow else w
  let owned := if symbol.nullable then (Expr.source present).deref.group else place e
  let reference := if symbol.nullable then Expr.source present else (place e).borrow
  let w ← writePayloadValue m e target owned reference w
  closeMember symbol.nullable w

/-- Writes what sends the members that are not bound elsewhere as the body. -/
def writeBody (input : Shape) (bound : List Member) (w : Writer) : Except GenerationError Writer :=
  if bound.length = input.members.length then .ok w
  else if bound.isEmpty then .ok (w.writeStmt (setJsonBody encodedInput))
  else do
    let w := w.provide (.item modelNamespace input.codingKeysName)
    let w := w.writeStmt (.bindMut "body" encodedInput)
    let w := w.openIfLet (.variant "serde_json::Value::Object" "fields") (.source "&mut body")
    let w := bound.foldl (fun w e => w.writeStmt
      (.run (.method (.source "fields") "remove" [input.keyExpr e]))) w
    let w ← w.closeScope "\x7d"
    .ok (w.writeStmt (setJsonBody (.source "body")))

/-! ## Whole requests -/

/-- Writes what binds a member by itself. -/
def writeMember (m : Model) (input : Shape) (w : Writer) (e : Member) :
    Except GenerationError Writer :=
  match destination e with
  | .query name => writeQuery m input w e name
  | .header name => writeHeader m input w e name
  | .label | .payload | .body => .ok w

/-- Writes what binds the members of an input. -/
def writeInput (m : Model) (input : Shape) (w : Writer) : Except GenerationError Writer := do
  let w ← input.members.foldlM (writeMember m input) w
  match (input.members.filter isPayload).getLast? with
  | some e => writePayload m input e w
  | none => writeBody input (input.members.filter isBound) w

/-- Writes what binds a request by the traits of the input. -/
def writeRestRequest (m : Model) (c : Call) (w : Writer) : Except GenerationError Writer := do
  let template := UriTemplate.ofText c.http.uri
  let segments ← (UriSegment.ofTemplate template.path.toList).mapError
    (UriSegment.Fault.error template.path c.operation.id)
  let mutable := !template.query.isEmpty
    || c.input.any fun input => input.members.any fun e => !e.traits.isHttpLabel
  let (w, path) ← writePath m c segments w
  let w := w.provide (.item "crate::runtime" "Method")
  let w := w.writeStmt (newRequest mutable c.http.method path)
  let w := template.query.foldl
    (fun w (name, value) => w.writeStmt (addQuery name (.literal value))) w
  match c.input with
  | none => .ok w
  | some input => writeInput m input w

/-- Writes what binds a request that sends the whole input. -/
def writeRpcRequest (c : Call) (w : Writer) : Writer :=
  let w := w.provide (.item "crate::runtime" "Method")
  let w := w.writeStmt (newRequest true .post (.literal "/"))
  w.writeStmt
    (setJsonBody (if c.input.isSome then encodedInput else Wire.make "Object" Wire.emptyMap))

end Call

end ClientGen
