import ClientGen.Code.Writer

/-!
# The modules that every generated crate has

These modules are the same whatever the model says. They are given as code in its final layout,
without empty lines.
-/

namespace ClientGen

namespace Code

instance : Coe String Code := ⟨.text⟩

def scope (header : String) (body : List Code) : Code := .block (header ++ " \x7b") body "\x7d"

/-- Lines one level deeper than what they continue. -/
def under (header : String) (lines : List String) : Code := .block header (lines.map .text) ""

/-- A head whose parameters have lines of their own. -/
def spread (head : String) (params : List String) : Code :=
  .block (head ++ "(") (params.map fun p => .text (p ++ ",")) ""

end Code

/-- A module that does not depend on the model. -/
structure Support where
  ns : String
  docs : String
  dependencies : List Dependency
  code : List Code

namespace Support

/-- The first lines of a module in its final layout. -/
def header (ns docs : String) : List String :=
  [generatedMarker, "", s!"//! Generated module `{ns}`.", "//!", s!"//! {docs}"]

def text (s : Support) : String :=
  String.join ((header s.ns s.docs ++ Code.linesOfAll 0 s.code).map (· ++ "\n"))

/-- A case of an error type. -/
structure Failure where
  docs : String
  /-- The message, in which a name in braces stands for a value. -/
  message : String
  form : String

def Failure.code (f : Failure) : List Code :=
  [.doc f.docs, s!"#[error({Text.literal f.message})]", s!"{f.form},"]

def errorType (docs derives name : String) (failures : List Failure) : List Code :=
  [.doc docs, s!"#[derive({derives})]",
    .scope s!"pub enum {name}" (failures.flatMap Failure.code)]

end Support

end ClientGen
