import ClientGen.Model.Basic

/-!
# The arguments of the program

Options with a value take it from behind an equals sign, from the rest of a group of short options,
or from the next argument; none may be given twice. Asking for the version or for help ends the
reading at once.
-/

namespace ClientGen.CommandLine

structure Options where
  model : Option String
  service : Option ShapeId
  protocol : Option Protocol
  crateName : Option String
  crateVersion : String
  /-- The directory for the crate. -/
  output : String
  dryRun : Bool
  listModels : Bool
  verbosity : Nat

/-- Why no run follows from the arguments. -/
inductive Stop
  /-- The arguments make no sense. -/
  | usage
  | version
  | help
deriving DecidableEq

inductive Setting
  | model
  | service
  | protocol
  | crateName
  | crateVersion
  | output
deriving DecidableEq

inductive Flag
  | dryRun
  | listModels
  | verbose
  | version
  | help
deriving DecidableEq

inductive Switch
  | setting (s : Setting)
  | flag (f : Flag)

def Switch.ofLong? : String → Option Switch
  | "model" => some (.setting .model)
  | "service" => some (.setting .service)
  | "protocol" => some (.setting .protocol)
  | "crate-name" => some (.setting .crateName)
  | "crate-version" => some (.setting .crateVersion)
  | "output" => some (.setting .output)
  | "dry-run" => some (.flag .dryRun)
  | "list-models" => some (.flag .listModels)
  | "verbose" => some (.flag .verbose)
  | "version" => some (.flag .version)
  | "help" => some (.flag .help)
  | _ => none

def Switch.ofShort? : Char → Option Switch
  | 'm' => some (.setting .model)
  | 's' => some (.setting .service)
  | 'p' => some (.setting .protocol)
  | 'o' => some (.setting .output)
  | 'v' => some (.flag .verbose)
  | 'V' => some (.flag .version)
  | 'h' => some (.flag .help)
  | _ => none

/-- What has been read of the arguments. -/
structure Given where
  values : List (Setting × String)
  flags : List Flag
  /-- The option whose value is to follow. -/
  pending : Option Setting

namespace Given

/-- Whether the text can be the value of the option. -/
def admits (s : Setting) (value : String) : Bool :=
  match s with
  | .model | .crateName | .crateVersion => true
  | .service => (ShapeId.ofText? value).isSome
  | .protocol => (Protocol.ofText? value).isSome
  | .output => value != ""

/-- Takes the value of an option. -/
def set (g : Given) (s : Setting) (value : String) : Except Stop Given :=
  if g.values.any (·.1 = s) || !admits s value then .error .usage
  else .ok { g with values := (s, value) :: g.values, pending := none }

/-- Takes an option without a value. -/
def raise (g : Given) (f : Flag) : Except Stop Given :=
  match f with
  | .version => .error .version
  | .help => .error .help
  | .verbose => .ok { g with flags := f :: g.flags }
  | .dryRun | .listModels =>
    if g.flags.contains f then .error .usage else .ok { g with flags := f :: g.flags }

/-- Reads a long option, without its hyphens. -/
def readLong (g : Given) (text : List Char) : Except Stop Given :=
  let name := String.ofList (text.takeWhile (· ≠ '='))
  let value? := match text.dropWhile (· ≠ '=') with
    | _ :: value => some (String.ofList value)
    | [] => none
  match Switch.ofLong? name, value? with
  | some (.setting s), some value => g.set s value
  | some (.setting s), none => .ok { g with pending := some s }
  | some (.flag f), none => g.raise f
  | some (.flag _), some _ | none, _ => .error .usage

/-- Reads a group of short options, without the hyphen. -/
def readShort (g : Given) : List Char → Except Stop Given
  | [] => .ok g
  | c :: rest => match Switch.ofShort? c with
    | some (.flag f) => do (← g.raise f).readShort rest
    | some (.setting s) => match rest with
      | [] => .ok { g with pending := some s }
      | '=' :: value => g.set s (String.ofList value)
      | value => g.set s (String.ofList value)
    | none => .error .usage

def read (g : Given) (arg : String) : Except Stop Given :=
  match g.pending, arg.toList with
  | some s, ['-'] => g.set s arg
  | some _, '-' :: _ => .error .usage
  | some s, _ => g.set s arg
  | none, '-' :: '-' :: name => g.readLong name
  | none, '-' :: c :: rest => g.readShort (c :: rest)
  | none, _ => .error .usage

def value? (g : Given) (s : Setting) : Option String :=
  (g.values.find? (·.1 = s)).map (·.2)

/-- The options that have been read; a model has to be named unless the models are listed. -/
def finish (g : Given) : Except Stop Options :=
  let listModels := g.flags.contains .listModels
  if g.pending.isSome || ((g.value? .model).isNone && !listModels) then .error .usage
  else .ok
    { model := g.value? .model
      service := (g.value? .service).bind ShapeId.ofText?
      protocol := (g.value? .protocol).bind Protocol.ofText?
      crateName := g.value? .crateName
      crateVersion := (g.value? .crateVersion).getD "0.1.0"
      output := (g.value? .output).getD "generated"
      dryRun := g.flags.contains .dryRun
      listModels
      verbosity := g.flags.count .verbose }

end Given

/-- The options that the arguments stand for. Two hyphens by themselves may only come last. -/
def Options.ofArguments (args : List String) : Except Stop Options := do
  let options := if args.getLast? = some "--" then args.dropLast else args
  let g ← options.foldlM Given.read ⟨[], [], none⟩
  g.finish

end ClientGen.CommandLine
