import ClientGen.Builtin.Definition
import ClientGen.CommandLine.Files
import ClientGen.CommandLine.Options
import ClientGen.Crate.Basic
import ClientGen.Model.Document

/-!
# What a run of the program does

All of it is decided here, from the arguments and a view of the file system: what the program
prints, how it ends, and which files it leaves.
-/

namespace ClientGen.CommandLine

/-! ## The run -/

/-- The model to generate from, and the service that it suggests: a model that comes with the
library, or a document. -/
def loadModel (view : View) (source : String) :
    Except GenerationError (Model × Option ShapeId) :=
  match Builtin.find? source with
  | some (.ok d) => .ok (d.model, some d.service)
  | some (.error e) => .error (.model e)
  | none => match view.entry source with
    | .absent => .error (.config (.unknownModel source Builtin.names))
    | .directory => .error (.config (.unreadableModel source "Is a directory (os error 21)"))
    | .file text => match Model.ofJson text with
      | .ok m => .ok (m, none)
      | .error e => .error (.model e)

/-- The service to generate: the one asked for, or the suggested one, or the only one. -/
def selectService (m : Model) (requested suggested : Option ShapeId) :
    Except GenerationError ShapeId :=
  match requested.or suggested with
  | some id => .ok id
  | none => match m.services.entries.map Service.id with
    | [id] => .ok id
    | [] => .error (.config .noService)
    | ids => .error (.config (.manyServices ids))

def Options.settings (o : Options) (service : ShapeId) : Settings :=
  let s := Settings.ofService service
  { s with
    crateName := o.crateName.getD s.crateName
    crateVersion := o.crateVersion
    protocol := o.protocol }

/-! ## Directories -/

/-- The path without what says nothing at its end. -/
def trimPath : List Char → List Char
  | '/' :: [] => ['/']
  | '/' :: rest => trimPath rest
  | '.' :: '/' :: rest => trimPath ('/' :: rest)
  | path => path

/-- The directory of the crate, as messages show it. -/
def directoryText (output : String) : String :=
  String.ofList (trimPath output.toList.reverse).reverse

/-- The directory that a file of the crate is in. -/
def parentOf (output path : String) : String :=
  if path.toList.contains '/' then
    if output.toList.getLast? = some '/' then output ++ "src" else output ++ "/src"
  else directoryText output

/-- What happens where a file of the crate is written, if it cannot be. -/
def writeFault (view : View) (output : String) (file : SourceFile) : Option GenerationError :=
  let parent := parentOf output file.path
  (view.blocked parent).map fun fault => .write parent fault

/-! ## The outcome -/

structure Outcome where
  exitCode : Nat
  stdout : String
  stderr : List String
  /-- The files that it writes under the directory for the crate. -/
  files : List SourceFile

/-- A run that says nothing and writes nothing. -/
def Outcome.silent (exitCode : Nat) : Outcome := ⟨exitCode, "", [], []⟩

/-- The line of a model that comes with the library. -/
def modelLine (d : Definition) : String :=
  let gap := String.ofList (List.replicate (10 - d.name.length) ' ')
  s!"{d.name}{gap} {d.description} ({d.service})\n"

/-- The list of the models that come with the library. -/
def modelList : String :=
  String.join (Builtin.names.filterMap fun name => match Builtin.find? name with
    | some (.ok d) => some (modelLine d)
    | _ => none)

/-- What a run says before it generates. -/
def announcement (o : Options) (s : Settings) : List String :=
  if o.verbosity = 0 then []
  else s!"Generating {s.crateName} for service {s.service}" ::
    if o.dryRun then ["Dry run mode - no files will be written"] else []

/-- The crate as a dry run prints it. -/
def printed (c : ClientCrate) : String :=
  String.join (c.files.map fun f => s!"=== {f.path} ===\n{f.content}\n")

/-- The line of an error that ends a run. -/
def errorLine (e : GenerationError) : String := s!"Error: {e.debug}"

/-- How a run ends with an error: a module that has no usual written form stops it at once. -/
def failed (said : List String) : GenerationError → Outcome
  | .unusualModule _ => ⟨101, "", said, []⟩
  | e => ⟨1, "", said ++ [errorLine e], []⟩

def runSettings (view : View) (o : Options) (m : Model) (s : Settings) : Outcome :=
  let said := announcement o s
  match m.clientCrate s with
  | .error e => failed said e
  | .ok c =>
    if o.dryRun then ⟨0, printed c, said, []⟩
    else
      let (files, result) := ClientCrate.deliver (writeFault view o.output) c.files
      match result with
      | .error e => ⟨1, "", said ++ [errorLine e], files⟩
      | .ok () =>
        ⟨0, "", said ++ [s!"Generated {s.crateName} ({files.length} files) to {o.output}"], files⟩

def runOptions (view : View) (o : Options) : Outcome :=
  if o.listModels then { Outcome.silent 0 with stdout := modelList }
  else
    let found := do
      let (m, suggested) ← loadModel view (o.model.getD "")
      pure (m, o.settings (← selectService m o.service suggested))
    match found with
    | .ok (m, s) => runSettings view o m s
    | .error e => { Outcome.silent 1 with stderr := [errorLine e] }

/-- How the program is used. -/
def usage : String :=
  "Usage: stencil-gen [OPTIONS] --model <MODEL>\n\n" ++
  "Options:\n" ++
  "  -m, --model <MODEL>                  Built-in definition name or path to a model document\n" ++
  "  -s, --service <SERVICE>              Service to generate\n" ++
  "  -p, --protocol <PROTOCOL>            Override the protocol of the service\n" ++
  "      --crate-name <CRATE_NAME>        Package name of the generated crate\n" ++
  "      --crate-version <CRATE_VERSION>  Version of the generated crate [default: 0.1.0]\n" ++
  "  -o, --output <OUTPUT>                Output directory [default: generated]\n" ++
  "      --dry-run                        Print generated code without writing files\n" ++
  "      --list-models                    List the built-in definitions and exit\n" ++
  "  -v, --verbose...                     Increase verbosity\n" ++
  "  -h, --help                           Print help\n" ++
  "  -V, --version                        Print version\n"

def run (view : View) (args : List String) : Outcome :=
  match Options.ofArguments args with
  | .ok o => runOptions view o
  | .error .version => { Outcome.silent 0 with stdout := "stencil-gen 0.1.0\n" }
  | .error .help => { Outcome.silent 0 with stdout := usage }
  | .error .usage => { Outcome.silent 2 with stderr := [usage] }

end ClientGen.CommandLine
