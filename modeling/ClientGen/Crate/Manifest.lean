import ClientGen.Dependency
import ClientGen.Text.Toml

/-!
# The manifest of the generated crate

A package that several modules depend on is named once: its version and source are those of the
first dependency, and its features are those of all of them.
-/

namespace ClientGen

namespace Manifest

/-- The features with some more, each of them once. -/
def addFeatures (features more : List String) : List String :=
  more.foldl (fun fs f => if fs.contains f then fs else fs ++ [f]) features

/-- A dependency with the features of others in addition. -/
def mergeFeatures (first : Dependency) (rest : List Dependency) : Dependency :=
  { first with features := rest.foldl (fun fs d => addFeatures fs d.features) first.features }

/-- One dependency for each name, of dependencies in ascending order. -/
def merge (dependencies : List Dependency) : List Dependency :=
  (dependencies.splitBy fun a b => a.name == b.name).filterMap fun
    | [] => none
    | first :: rest => some (mergeFeatures first rest)

/-- Whether a version is all that there is to say. -/
def isPlain (d : Dependency) : Bool := d.features.isEmpty && d.git.isNone

def plainLine (d : Dependency) : String := s!"{Text.Toml.key d.name} = {Text.Toml.string d.version}"

def sortedFeatures (d : Dependency) : List String := d.features.mergeSort fun a b => !decide (b < a)

/-- The section for a dependency that is not plain. -/
def detailed (d : Dependency) : List String :=
  s!"[dependencies.{Text.Toml.key d.name}]" ::
    (if d.features.isEmpty then []
      else [s!"features = {Text.Toml.stringList (sortedFeatures d)}"])
    ++ [match d.git with
      | some git => s!"git = {Text.Toml.string git}"
      | none => s!"version = {Text.Toml.string d.version}"]

/-- The sections for the dependencies: the plain ones in one, then one for each of the others. A
section without content is left out if there are others. -/
def sections (dependencies : List Dependency) : List (List String) :=
  let merged := merge dependencies
  let plain := (merged.filter isPlain).map plainLine
  let others := (merged.filter (!isPlain ·)).map detailed
  if plain.isEmpty && !others.isEmpty then others else ("[dependencies]" :: plain) :: others

def package (name version : String) : List String :=
  ["[package]", "edition = \"2021\"", s!"name = {Text.Toml.string name}", "publish = false",
    s!"version = {Text.Toml.string version}"]

/-- The text of a manifest; the dependencies are in ascending order. -/
def text (name version : String) (dependencies : List Dependency) : String :=
  let all := ["# Code generated by stencil-gen. DO NOT EDIT."] :: package name version
    :: sections dependencies
  "\n".intercalate (all.map fun lines => String.join (lines.map (· ++ "\n")))

end Manifest

end ClientGen
