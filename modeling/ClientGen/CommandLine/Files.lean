import ClientGen.Error

/-!
# What a run sees of the file system

What is at a path, and where no directory can be made. A tree of directories and files gives such a
view; a path leads through it part by part, and each part but the last one has to be a directory.
-/

namespace ClientGen.CommandLine

inductive Entry
  | absent
  | directory
  | file (content : String)
deriving DecidableEq

/-- What a run sees of the file system. -/
structure View where
  entry : String → Entry
  /-- What happens where a directory is made, if it cannot be. -/
  blocked : String → Option WriteFault

/-- Directories and files, each by the names on the way from the root. -/
structure FileTree where
  directories : List (List String)
  files : List (List String × String)

inductive Place
  /-- Something is there. -/
  | taken (names : List String)
  /-- Nothing is there, but the directory that it would be in is. -/
  | free (names : List String)
  /-- A directory on the way is missing. -/
  | missing
  /-- A file is on the way. -/
  | throughFile
  /-- A name on the way is longer than names may be. -/
  | tooLong

/-- How many bytes a name may have. -/
def nameLimit : Nat := 255

def partsOf (path : String) : List String := (path.toList.splitOn '/').map String.ofList

namespace FileTree

/-- What stands under the names. -/
def entry (t : FileTree) (names : List String) : Entry :=
  if t.directories.contains names then .directory
  else match t.files.lookup names with
    | some content => .file content
    | none => .absent

/-- Where the parts of a path lead from a place in the tree. -/
def locate (t : FileTree) (here : List String) : List String → Place
  | [] => .taken here
  | part :: rest => match t.entry here with
    | .absent => .missing
    | .file _ => .throughFile
    | .directory =>
      if part = "" || part = "." then t.locate here rest
      else if part = ".." then t.locate here.dropLast rest
      else if nameLimit < part.utf8ByteSize then .tooLong
      else
        let next := here ++ [part]
        if t.entry next = .absent then
          if rest.all (· = "") then .free next else .missing
        else t.locate next rest

/-- The parts of the path of the directory above. -/
def partsAbove (parts : List String) : List String :=
  let isIdle (part : String) : Bool := part = "" || part = "."
  ((parts.reverse.dropWhile isIdle).drop 1).reverse

/-- Makes a directory, and those above it that are missing. -/
def makeAll (t : FileTree) (here : List String) : Nat → List String → Except WriteFault FileTree
  | 0, _ => .ok t
  | tries + 1, parts =>
    let make (t : FileTree) : Place → Except WriteFault FileTree
      | .free names => .ok { t with directories := names :: t.directories }
      | .taken names =>
        if t.entry names = .directory then .ok t
        else .error (.system 17 "AlreadyExists" "File exists")
      | .missing => .error (.system 2 "NotFound" "No such file or directory")
      | .throughFile => .error (.system 20 "NotADirectory" "Not a directory")
      | .tooLong => .error (.system 36 "InvalidFilename" "File name too long")
    match t.locate here parts with
    | .missing => do
      let t ← t.makeAll here tries (partsAbove parts)
      make t (t.locate here parts)
    | place => make t place

/-- The tree with some files in a directory. -/
def ofFiles (directory : List String) (files : List (String × String)) : FileTree where
  directories := (List.range (directory.length + 1)).map directory.take
  files := files.map fun (name, content) => (directory ++ [name], content)

end FileTree

namespace View

/-- The names on the way from the root to a directory whose path has no turns. -/
def names (directory : String) : List String := (partsOf directory).filter (· ≠ "")

/-- Where the way along a path starts. -/
def start (directory path : String) : List String :=
  if path.toList.head? = some '/' then [] else names directory

/-- The tree once a directory has been made in it. -/
def made (directory : String) (t : FileTree) (path : String) : Except WriteFault FileTree :=
  let parts := partsOf path
  t.makeAll (start directory path) (parts.length + 1) parts

/-- The names on the way to a directory, once it has been made. -/
def destination? (directory : String) (t : FileTree) (path : String) : Option (List String) :=
  match made directory t path with
  | .ok t => match t.locate (start directory path) (partsOf path) with
    | .taken names => some names
    | _ => none
  | .error _ => none

/-- The view from a directory into a tree. -/
def ofTree (directory : String) (t : FileTree) : View where
  entry path := match t.locate (start directory path) (partsOf path) with
    | .taken names => if path = "" then .absent else t.entry names
    | _ => .absent
  blocked path := match made directory t path with
    | .ok _ => none
    | .error fault => some fault

end View

end ClientGen.CommandLine
