import SerialIsp.Files
import SerialIsp.Toml.Document

/-!
# Configuration files

Defaults that need not be given on every command line: the port and its baud rate under
`connection`, the crystal frequency, a parts file and how the eighth vector is treated under
`target`. Keys with no meaning here are left alone; one with a meaning has to have the right
type.

The first configuration file that exists counts, of one in the working directory, one in the
folder above it, and one in the user's configuration folder.
-/

namespace SerialIsp

/-- Environment variables and their values. -/
abbrev Environment : Type := List (String × String)

/-- What a configuration file sets. -/
structure Config where
  port : Option String := none
  baud : Option UInt32 := none
  /-- The crystal frequency of the target, in kHz. -/
  crystal : UInt32 := 10000
  partsFile : Option String := none
  /-- Compute the eighth vector instead of requiring it. -/
  computeUserCode : Bool := true
  deriving DecidableEq, Repr, Inhabited

namespace Config

open Toml (Node Entries)

/-! ## Values -/

/-- A text. -/
def text? : Node → Option String
  | .string s => some s
  | _ => none

/-- A number that fits in 32 bits without sign. -/
def word? : Node → Option UInt32
  | .integer n => if 0 ≤ n ∧ n < Text.limit32 then some n.toNat.toUInt32 else none
  | _ => none

/-- A truth value. -/
def boolean? : Node → Option Bool
  | .boolean b => some b
  | _ => none

/-- A value of the right type if there is one at all, else the default. -/
def orDefault {α : Type} (default : α) (read : Node → Option α) : Option Node → Option α
  | none => some default
  | some node => read node

/-! ## Sections

A section is a table. Its values alone are taken as well, in order, in an array. A date has
no values, and counts as a table without keys. -/

/-- Takes the section `connection` over. In an array both of its values have to be there. -/
def withConnection (c : Config) : Node → Option Config
  | .table _ entries => do
    let port ← orDefault none (fun v => (text? v).map some) (entries.lookup "serial")
    let baud ← orDefault none (fun v => (word? v).map some) (entries.lookup "baudrate")
    return { c with port, baud }
  | .array (port :: baud :: _) => do
    return { c with port := some (← text? port), baud := some (← word? baud) }
  | .dateTime _ => some c
  | _ => none

/-- Takes the values of the section `target` over. -/
def withTargetValues (c : Config) (crystal partsFile computeUserCode : Option Node) :
    Option Config := do
  let crystal ← orDefault c.crystal word? crystal
  let partsFile ← orDefault c.partsFile (fun v => (text? v).map some) partsFile
  let computeUserCode ← orDefault c.computeUserCode boolean? computeUserCode
  return { c with crystal, partsFile, computeUserCode }

/-- Takes the section `target` over. -/
def withTarget (c : Config) : Node → Option Config
  | .table _ entries =>
    c.withTargetValues (entries.lookup "crystal_frequency") (entries.lookup "parts_file")
      (entries.lookup "compute_user_code")
  | .array items => c.withTargetValues items[0]? items[1]? items[2]?
  | .dateTime _ => some c
  | _ => none

/-- What a configuration says, if it is one. -/
def ofText (text : String) : Option Config := do
  let root ← Toml.parse text
  let c : Config := {}
  let c ← orDefault c c.withConnection (root.lookup "connection")
  orDefault c c.withTarget (root.lookup "target")

/-! ## Files -/

/-- Why there is no configuration although there is a file. -/
inductive Fault where
  | unreadable (path : String)
  | malformed (path : String)
  deriving DecidableEq, Repr

/-- The fault in words. -/
def Fault.message : Fault → String
  | .unreadable path => "Failed to read config file " ++ path
  | .malformed path => "Failed to parse config file " ++ path

/-- The configuration in a file. -/
def ofFile (fs : Files) (path : String) : Except Fault Config := do
  match fs.readText path with
  | .error _ => throw (.unreadable path)
  | .ok text =>
    match ofText text with
    | none => throw (.malformed path)
    | some c => return c

/-- The name of configuration files. -/
def fileName : String := "lpcflash.toml"

/-- The folder for the configuration of programs, as the environment has it. -/
def userFolder? (env : Environment) : Option String :=
  match env.lookup "XDG_CONFIG_HOME" with
  | some folder => if folder.startsWith "/" then some folder else home?
  | none => home?
where
  /-- The one in the user's home. -/
  home? : Option String :=
    match env.lookup "HOME" with
    | some home => if home.isEmpty then none else some (home ++ "/.config")
    | none => none

/-- Where configuration files are looked for. -/
def candidates (workingDirectory : Location) (env : Environment) : List String :=
  let above := if workingDirectory.isEmpty then [] else [workingDirectory.dropLast]
  ((workingDirectory :: above).map fun l => Files.absolute (l ++ [fileName])) ++
    ((userFolder? env).map fun folder => folder ++ "/lpcflash/" ++ fileName).toList

/-- The configuration in force: that of the first file there is, or the defaults. -/
def load (fs : Files) (env : Environment) : Except Fault Config :=
  match (candidates fs.workingDirectory env).find? fs.pathExists with
  | some path => ofFile fs path
  | none => .ok {}

end Config
end SerialIsp
