import ClientGen.Model.ShapeId

/-! Operations and services: what can be called, and the root of a run with its protocol. -/

namespace ClientGen

inductive HttpMethod
  | get
  | post
  | put
  | patch
  | delete
  | head
deriving DecidableEq, Inhabited

namespace HttpMethod

/-- The methods in the order in which messages list them. -/
def all : List HttpMethod := [get, post, put, patch, delete, head]

def text : HttpMethod → String
  | get => "GET"
  | post => "POST"
  | put => "PUT"
  | patch => "PATCH"
  | delete => "DELETE"
  | head => "HEAD"

/-- The variant of the generated type of methods. -/
def variant : HttpMethod → String
  | get => "Get"
  | post => "Post"
  | put => "Put"
  | patch => "Patch"
  | delete => "Delete"
  | head => "Head"

def ofText? (word : String) : Option HttpMethod := all.find? (·.text == word)

end HttpMethod

/-- How calls are put on the wire. -/
inductive Protocol
  /-- Members are bound to parts of the request, payloads are JSON. -/
  | restJson
  /-- Every call posts JSON to one path, with the operation in a header. -/
  | rpcJson
deriving DecidableEq, Inhabited

namespace Protocol

/-- The protocols in the order in which messages list them. -/
def all : List Protocol := [restJson, rpcJson]

def text : Protocol → String
  | restJson => "restJson1"
  | rpcJson => "awsJson1_1"

def variant : Protocol → String
  | restJson => "RestJson1"
  | rpcJson => "AwsJson1_1"

def ofText? (word : String) : Option Protocol := all.find? (·.text == word)

end Protocol

structure HttpBinding where
  method : HttpMethod
  uri : String
deriving DecidableEq, Inhabited

structure Operation where
  id : ShapeId
  input : Option ShapeId
  output : Option ShapeId
  http : Option HttpBinding
  documentation : Option String
deriving DecidableEq, Inhabited

/-- A named and versioned list of operations. -/
structure Service where
  id : ShapeId
  version : String
  operations : List ShapeId
  protocol : Option Protocol
  documentation : Option String
deriving DecidableEq, Inhabited

end ClientGen
