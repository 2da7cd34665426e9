import ClientGen.Code.Item
import ClientGen.Crate.Client
import ClientGen.Crate.Config
import ClientGen.Crate.Manifest
import ClientGen.Crate.Settings
import ClientGen.Crate.Support.Errors
import ClientGen.Crate.Support.Layers
import ClientGen.Crate.Support.Wire
import ClientGen.Crate.Types
import ClientGen.Graph.Validation

/-!
# The generated crate

A crate is made as a whole before a file of it leaves the library: its modules are formatted, and
those that all crates have are added to them.
-/

namespace ClientGen

open Syntax

structure SourceFile where
  path : String
  content : String
deriving DecidableEq

structure ClientCrate where
  settings : Settings
  service : Service
  protocol : Protocol
  client : FormattedUnit
  config : FormattedUnit
  types : FormattedUnit

namespace ClientCrate

/-! ## Parts -/

/-- Whether the crate handles binary data. -/
def hasBlobs (c : ClientCrate) : Bool :=
  c.types.dependencies.contains .base64 || c.client.dependencies.contains .base64

def wire (c : ClientCrate) : Support := Support.wire c.hasBlobs

/-- The dependencies of all modules, in ascending order. -/
def dependencies (c : ClientCrate) : List Dependency :=
  [c.client.dependencies, Support.errors.dependencies, c.types.dependencies,
    Support.runtime.dependencies, c.wire.dependencies].foldl SortedSet.union []

def manifest (c : ClientCrate) : String :=
  Manifest.text c.settings.crateName c.settings.crateVersion c.dependencies

def moduleNames : List String := ["client", "config", "error", "model", "runtime", "wire"]

/-- A name of a module that everybody may use. -/
def publicName (ns : String) (what : Tree) : Tree := .importing "pub use " (.importFrom ns what)

/-- A line of documentation of what it stands in. -/
def innerDoc (line : String) : Tree :=
  .attributeValue true "doc" (.literal (Text.sourceLiteral line))

/-- The root of the crate: its documentation, its modules and the names that everybody may use. -/
def root (c : ClientCrate) : SourceTree where
  attributes := [innerDoc s!" Generated client for the `{c.service.id.name}` service.", innerDoc "",
    innerDoc s!" Service version `{c.service.version}`."]
  items := moduleNames.map (fun m => .submodule "pub mod " m [] none) ++
    [publicName "client"
        (.importGroup [.importName c.service.apiName, .importName c.service.clientName]),
      publicName "config" (.importName "Config"), publicName "error" (.importName "ClientError"),
      publicName "wire" (.importName "DecodeError")]
  hasUnusual := false
  depth := 4

/-! ## Files -/

/-- The files of the crate, in ascending order of their paths. -/
def files (c : ClientCrate) : List SourceFile :=
  [⟨"Cargo.toml", c.manifest⟩, ⟨"src/client.rs", c.client.text⟩,
    ⟨"src/config.rs", c.config.text⟩, ⟨"src/error.rs", Support.errors.text⟩,
    ⟨"src/lib.rs", (⟨c.root, []⟩ : FormattedUnit).text⟩, ⟨"src/model.rs", c.types.text⟩,
    ⟨"src/runtime.rs", Support.runtime.text⟩, ⟨"src/wire.rs", c.wire.text⟩]

/-- Hands out files in their order, until one meets a fault: the files that were handed out, and the
fault. -/
def deliver (fault? : SourceFile → Option GenerationError) :
    List SourceFile → List SourceFile × Except GenerationError Unit
  | [] => ([], .ok ())
  | file :: rest => match fault? file with
    | some e => ([], .error e)
    | none =>
      let (delivered, result) := deliver fault? rest
      (file :: delivered, result)

end ClientCrate

namespace Model

/-- The crate for a service: the model is validated first, and what cannot be formatted is refused
last. -/
def clientCrate (m : Model) (s : Settings) : Except GenerationError ClientCrate := do
  s.validate
  m.validate s.service
  let service ← m.resolveService s.service
  let protocol ← match s.protocol.or service.protocol with
    | some p => pure p
    | none => throw (.config (.noProtocol service.id))
  let shapes ← m.reachable service.id
  let types ← m.typesModule shapes
  let client ← m.clientModule service protocol
  let config ← Config.unit protocol.configFields
  pure ⟨s, service, protocol, ← client.unit.formatted, ← config.formatted, ← types.unit.formatted⟩

end Model

end ClientGen
