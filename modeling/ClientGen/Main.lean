import ClientGen.CommandLine.Run

/-!
# The program

It looks at the file system, runs, and does what the outcome says. A file is written under another
name first, so that no file is ever half written.
-/

open ClientGen ClientGen.CommandLine

namespace ClientGen.Main

def entryAt (path : String) : IO Entry := do
  try
    return .file (← IO.FS.readFile path)
  catch
    | .noFileOrDirectory .. => return .absent
    | _ => return .directory

/-- Why the system does not do what it is asked to. -/
def faultOf : IO.Error → WriteFault
  | .alreadyExists _ code details => .system code.toNat "AlreadyExists" details
  | .permissionDenied _ code details => .system code.toNat "PermissionDenied" details
  | .inappropriateType _ code details => .system code.toNat "NotADirectory" details
  | e => .system 0 "Other" (toString e)

/-- Makes a directory; if that is not possible, says why. -/
def makeDirectory (path : String) : IO (Option (String × WriteFault)) := do
  try
    IO.FS.createDirAll path
    return none
  catch e => return some (path, faultOf e)

def writeFile (output : String) (file : SourceFile) : IO Unit := do
  let path := s!"{output}/{file.path}"
  IO.FS.writeFile (path ++ ".tmp") file.content
  IO.FS.rename (path ++ ".tmp") path

/-- Runs for a model at a path; directories are made once it is known that there are files for them.
-/
def runFor (o : Options) (args : List String) : IO Outcome := do
  let path := o.model.getD ""
  let entry ← entryAt path
  let view := fun (faults : List (String × WriteFault)) =>
    (⟨fun p => if p = path then entry else .absent, fun p => faults.lookup p⟩ : View)
  let planned := run (view []) args
  let directories := (planned.files.map fun f => parentOf o.output f.path).eraseDups
  let faults ← directories.filterMapM makeDirectory
  let outcome := run (view faults) args
  for file in outcome.files do
    writeFile o.output file
  return outcome

end ClientGen.Main

/-- Runs the program for its arguments. -/
def main (args : List String) : IO UInt32 := do
  let outcome ← match Options.ofArguments args with
    | .ok o => ClientGen.Main.runFor o args
    | .error _ => pure (run ⟨fun _ => .absent, fun _ => none⟩ args)
  (← IO.getStdout).putStr outcome.stdout
  for line in outcome.stderr do
    IO.eprintln line
  return outcome.exitCode.toUInt32
