import SerialIsp.Failure
import SerialIsp.Text.Blank
import SerialIsp.Text.Utf8

/-!
# Files

A tree of files as a value, with the working directory that relative paths start from.
Paths are walked one component at a time, as a file system does: a component that does not
exist ends the walk, and nothing can lie below a file.
-/

namespace SerialIsp

/-- The names that lead from the root to a file or folder. -/
abbrev Location := List String

/-- A tree of files. Every folder on the way to a file exists, and so does the working
    directory. -/
structure Files where
  workingDirectory : Location
  entries : List (Location × Bytes)
  /-- Folders that exist besides these. -/
  folders : List Location := []
  deriving Repr, Inhabited

namespace Files

/-- The file at a location. -/
def file? (fs : Files) (l : Location) : Option Bytes := fs.entries.lookup l

/-- Whether a location is a folder. -/
def isFolder (fs : Files) (l : Location) : Bool :=
  l.isPrefixOf fs.workingDirectory || (fs.entries.any fun e => l.isPrefixOf e.1.dropLast) ||
    fs.folders.any l.isPrefixOf

/-- The components of a path. A trailing slash counts as a component `.`, since what it
    follows has to be a folder. -/
def components (path : String) : List String :=
  let names := (Text.splitAtChar '/' path.toList).map String.ofList
  let inner := names.filter (· != "")
  if names.getLast? = some "" ∧ inner ≠ [] then inner ++ ["."] else inner

/-- Where a path leads. -/
inductive Target where
  | file (l : Location) (content : Bytes)
  | folder (l : Location)
  /-- Nothing is there yet, but the folder it would lie in exists. -/
  | vacant (l : Location)
  deriving Repr

/-- Follows components from the folder `l`. -/
def walk (fs : Files) (l : Location) : List String → Except FileFault Target
  | [] => .ok (.folder l)
  | name :: rest =>
    if name = "." then walk fs l rest
    else if name = ".." then walk fs l.dropLast rest
    else if name.utf8ByteSize > 255 then .error .nameTooLong
    else
      let next := l ++ [name]
      match fs.file? next with
      | some content => if rest.isEmpty then .ok (.file next content) else .error .notDirectory
      | none =>
        if fs.isFolder next then walk fs next rest
        else if rest.isEmpty then .ok (.vacant next)
        else .error .notFound

/-- Where a path without the last `dropped` of its components leads, from the
    working directory, or from the root when the path starts with a slash. -/
def resolveWithout (fs : Files) (dropped : Nat) (path : String) : Except FileFault Target :=
  if path.isEmpty then .error .notFound
  else if path.toList.contains '\x00' then
    .error (.other "file name contained an unexpected NUL byte")
  else if path.utf8ByteSize ≥ 4096 then .error .nameTooLong
  else
    let start := if path.toList.head? = some '/' then [] else fs.workingDirectory
    let names := components path
    walk fs start (names.take (names.length - dropped))

/-- Where a path leads. -/
def resolve (fs : Files) (path : String) : Except FileFault Target := fs.resolveWithout 0 path

/-- The content of a file. -/
def read (fs : Files) (path : String) : Except FileFault Bytes := do
  match ← fs.resolve path with
  | .file _ content => .ok content
  | .folder _ => .error .isDirectory
  | .vacant _ => .error .notFound

/-- The content of a text file. -/
def readText (fs : Files) (path : String) : Except FileFault String := do
  match Text.Utf8.decode? (← fs.read path) with
  | some cs => .ok (String.ofList cs)
  | none => .error .notText

/-- Whether a path leads to a file or folder. -/
def pathExists (fs : Files) (path : String) : Bool :=
  match fs.resolve path with
  | .ok (.file ..) => true
  | .ok (.folder _) => true
  | _ => false

/-- Whether a path leads to a file. -/
def isFile (fs : Files) (path : String) : Bool :=
  match fs.resolve path with
  | .ok (.file ..) => true
  | _ => false

/-- Puts a file at a location, in place of one that is there. -/
def put (fs : Files) (l : Location) (content : Bytes) : Files :=
  { fs with entries := (l, content) :: fs.entries.filter fun e => e.1 != l }

/-- Writes a whole file, creating it when its folder exists. No file can be created under a
    path that ends in a slash, which could only name a folder: there it is enough that the
    folder around it exists. -/
def write (fs : Files) (path : String) (content : Bytes) : Except FileFault Files := do
  if path.toList.getLast? = some '/' then
    match ← fs.resolveWithout 2 path with
    | .file .. => throw .notDirectory
    | .folder _ => throw .isDirectory
    | .vacant _ => throw .notFound
  match ← fs.resolve path with
  | .file l _ => return fs.put l content
  | .folder _ => throw .isDirectory
  | .vacant l => return fs.put l content

/-- A location as an absolute path. -/
def absolute (l : Location) : String := "/" ++ String.intercalate "/" l

end Files
end SerialIsp
