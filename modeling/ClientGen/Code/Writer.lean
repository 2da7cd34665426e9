import ClientGen.Code.Import
import ClientGen.Code.Layout
import ClientGen.Error

/-!
# A module that is being written

A writer collects the lines of one module, and the imports and packages that they need. Scopes are
opened and closed one by one; to close one that is not open, or to finish while one is, is an error.
-/

namespace ClientGen

/-- The first line of every generated file. -/
def generatedMarker : String := "// Code generated by stencil-gen. DO NOT EDIT."

structure SourceUnit where
  ns : String
  source : String
  dependencies : List Dependency

/-- A module that is being written. -/
structure Writer where
  ns : String
  /-- The lines of the module's documentation. -/
  docs : List String
  lines : List String
  /-- The headers of the open scopes, the innermost first. -/
  scopes : List String
  /-- In ascending order. -/
  imports : List Import
  /-- In ascending order. -/
  dependencies : List Dependency

namespace Writer

/-- A module without content. -/
def new (ns : String) : Writer := ⟨ns, [], [], [], [], []⟩

/-- How many scopes are open. -/
def depth (w : Writer) : Nat := w.scopes.length

/-! ## Imports and packages -/

def require (w : Writer) (d : Dependency) : Writer :=
  { w with dependencies := SortedSet.insert d w.dependencies }

/-- Whether names of a module are imported: not those of this one, nor those always in scope. -/
def isForeign (w : Writer) (ns : String) : Bool := ns != "" && ns != w.ns

def importAs (w : Writer) (ns name : String) (localName : Option String) : Writer :=
  if w.isForeign ns then { w with imports := SortedSet.insert ⟨ns, name, localName⟩ w.imports }
  else w

/-- Imports a type by itself, and adds its packages. -/
def registerPart (w : Writer) (localName : Option String) (s : Symbol) : Writer :=
  (s.dependencies.foldl require w).importAs s.ns s.definition localName

/-- Imports a type, by its local name if there is one, and all that stand inside it. -/
def register (w : Writer) (s : Symbol) (localName : Option String) : Writer :=
  match s.parts with
  | [] => w
  | head :: inside =>
    inside.foldl (fun w s => w.registerPart none s) (w.registerPart localName head)

/-- Whether a name is imported from a module. -/
def isImported (w : Writer) (ns name : String) : Bool :=
  w.imports.any fun i => i.ns == ns && i.name == name

def provide (w : Writer) : Need → Writer
  | .item ns name => w.importAs ns name none
  | .type s => w.register s none
  | .package d => w.require d

/-! ## Lines -/

/-- Adds lines to the documentation of the module. -/
def moduleDoc (w : Writer) (text : String) : Writer :=
  { w with docs := w.docs ++
      (Text.lines text).map fun line => String.ofList (Text.trimEnd line.toList) }

/-- Writes code at the current depth. -/
def emit (w : Writer) (code : List Code) : Writer :=
  (Code.needsOfAll code).foldl provide
    { w with lines := w.lines ++ Code.linesOfAll w.depth code }

def write (w : Writer) (text : String) : Writer := w.emit [.text text]

def writeDoc (w : Writer) (text : String) : Writer := w.emit [.doc text]

def writeBlank (w : Writer) : Writer := w.emit [.blank]

/-- Writes a header and opens a scope. -/
def openScope (w : Writer) (header : String) : Writer :=
  let w := w.write header
  { w with scopes := header :: w.scopes }

/-- Closes the innermost scope and writes a footer. -/
def closeScope (w : Writer) (footer : String) : Except GenerationError Writer :=
  match w.scopes with
  | [] => .error (.unbalancedScope w.ns (.neverOpened footer))
  | _ :: outer => .ok ({ w with scopes := outer }.write footer)

/-! ## The finished module -/

/-- The lines before the imports. -/
def header (w : Writer) : List String :=
  let docs := if w.docs.isEmpty then [] else
    "//!" :: w.docs.map fun doc => if doc.isEmpty then "//!" else s!"//! {doc}"
  [generatedMarker, "", s!"//! Generated module `{w.ns}`."] ++ docs ++ [""]

def importLines (w : Writer) : List String :=
  if w.imports.isEmpty then [] else Import.lines w.imports ++ [""]

/-- The text of the module as it stands. -/
def source (w : Writer) : String :=
  String.join ((w.header ++ w.importLines ++ w.lines).map (· ++ "\n"))

/-- The finished module, if all its scopes are closed. -/
def finalize (w : Writer) : Except GenerationError SourceUnit :=
  match w.scopes with
  | [] => .ok ⟨w.ns, w.source, w.dependencies⟩
  | innermost :: _ => .error (.unbalancedScope w.ns (.stillOpen w.scopes.length innermost))

end Writer

end ClientGen
