import SerialIsp.Part.Catalog
import SerialIsp.Part.Record
import SerialIsp.Files

/-!
# Where parts are looked up

A part is looked up by the identifier its bootloader reports, in the built-in table or in a
parts file. In a file the first record that is malformed or has the identifier decides;
what follows it is not looked at. What a number looks like is left to a reader of literals, as
in parts files themselves.
-/

namespace SerialIsp.Part

/-- A place that describes parts. -/
inductive Source where
  | builtIn
  | file (path : String)
  deriving DecidableEq, Repr, Inhabited

namespace Source

/-- The source's name in messages. -/
def text : Source → String
  | .builtIn => "built-in parts table"
  | .file path => path

/-- The parts files that are looked for when none is named. -/
def defaultFiles : List String := ["./lpctools_parts.def", "/etc/lpctools_parts.def"]

/-- The first default parts file that exists, or the built-in table. -/
def locate (fs : Files) : Source :=
  match defaultFiles.find? fs.isFile with
  | some path => .file path
  | none => .builtIn

/-- The first record with an identifier, unless a malformed one comes before it. -/
def firstMatch (id : UInt64) : List (Except Failure Part) → Except Failure Part
  | [] => .error (.unknownPart id)
  | .error failure :: _ => .error failure
  | .ok part :: rest => if part.id = id then .ok part else firstMatch id rest

section

variable (read : Text.LiteralReader) (source : Source) (fs : Files)

/-- What a source describes, record by record. -/
def recordsBy : Except Failure (List (Except Failure Part)) :=
  match source with
  | .builtIn => .ok (catalog.map .ok)
  | .file path =>
    match fs.readText path with
    | .ok text => .ok (ofTextBy read text)
    | .error fault => .error (.unreadableFile path fault)

/-- The description of the part with an identifier, whatever its geometry. -/
def lookUpBy (id : UInt64) : Except Failure Part := do
  firstMatch id (← source.recordsBy read fs)

/-- The description of the part with an identifier, if its geometry is possible. -/
def findBy (id : UInt64) : Except Failure Part := do
  let part ← source.lookUpBy read fs id
  part.checkGeometry
  return part

/-- All parts a source describes, or its first malformed record. -/
def allBy : Except Failure (List Part) := do
  (← source.recordsBy read fs).mapM fun record => record

/-- `findBy` with numbers as they are in parts files. -/
def find (id : UInt64) : Except Failure Part := source.findBy Text.readLiteral fs id

/-- `allBy` with numbers as they are in parts files. -/
def all : Except Failure (List Part) := source.allBy Text.readLiteral fs

end

end Source
end SerialIsp.Part
