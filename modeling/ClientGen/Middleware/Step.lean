/-! The phases of a call, in the order in which they run. -/

namespace ClientGen

inductive Step
  /-- Prepares the input before it is written. -/
  | prepare
  /-- Turns the input into a request. -/
  | serialize
  /-- Adds what concerns the request as a whole. -/
  | build
  /-- Makes the last changes before sending. -/
  | finalize
  /-- Turns the response into an output or an error. -/
  | deserialize
deriving DecidableEq, Inhabited

namespace Step

/-- The phases in their order. -/
def all : List Step := [prepare, serialize, build, finalize, deserialize]

def text : Step → String
  | prepare => "Initialize"
  | serialize => "Serialize"
  | build => "Build"
  | finalize => "Finalize"
  | deserialize => "Deserialize"

def ofText? (word : String) : Option Step := all.find? (·.text == word)

/-- The phase in generated code. -/
def path (s : Step) : String := "Step::" ++ s.text

end Step

end ClientGen
