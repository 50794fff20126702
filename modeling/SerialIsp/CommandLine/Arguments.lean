import SerialIsp.CommandLine.Grammar
import SerialIsp.Part.Source
import SerialIsp.Session.Basic

/-!
# What can be asked for

The commands of the program, with what each of them takes, and the arguments as they come
out of a command line.
-/

namespace SerialIsp.CommandLine

/-! ## Reaching a device -/

/-- How a device is reached. -/
structure ConnectArguments where
  port : Option String := none
  baud : Option UInt32 := none
  /-- The crystal frequency of the target, in kHz. -/
  crystal : Option UInt32 := none
  /-- Milliseconds to wait for a reply. -/
  timeout : Nat := 500
  trace : Bool := false
  parts : Option String := none
  deriving DecidableEq, Repr, Inhabited

namespace ConnectArguments

/-- The options by which they are given. -/
def options : List Parameter := [
  { name := "port", kind := some .text, short := some 'p', environmentName := some "LPCFLASH_PORT" },
  { name := "baud", kind := some .decimalWord, short := some 'b',
    environmentName := some "LPCFLASH_BAUD" },
  { name := "freq", kind := some .word, short := some 'f' },
  { name := "timeout", kind := some .decimalLong },
  { name := "trace", kind := none, short := some 't' },
  { name := "parts", kind := some .path, environmentName := some "LPCFLASH_PARTS" }]

/-- The arguments that were given. -/
def ofGiven (g : Given) : ConnectArguments where
  port := g.text? "port"
  baud := (g.text? "baud").bind decimalWord?
  crystal := (g.text? "freq").bind word?
  timeout := ((g.text? "timeout").bind decimalLong?).getD 500
  trace := g.flag "trace"
  parts := g.text? "parts"

/-- What is fixed for the session. -/
def settings (a : ConnectArguments) : Session.Settings := { trace := a.trace, timeout := a.timeout }

/-- The crystal frequency, given or configured. -/
def crystalFrequency (a : ConnectArguments) (c : Config) : UInt32 := a.crystal.getD c.crystal

/-- Where parts are looked up: in a file that is given or configured, else where they are
    found. -/
def partSource (a : ConnectArguments) (c : Config) (fs : Files) : Part.Source :=
  match a.parts.or c.partsFile with
  | some path => .file path
  | none => .locate fs

end ConnectArguments

/-! ## Single bootloader commands -/

/-- A single bootloader command. -/
inductive IspCommand where
  | synchronize
  | unlock
  | readMemory (address count : UInt32) (output : String) (raw : Bool)
  | writeToRam (address : UInt32) (file : String) (raw : Bool)
  | prepareForWrite (first last : UInt32)
  | copyRamToFlash (flashAddress ramAddress size : UInt32)
  | go (address : UInt32) (mode : String)
  | erase (first last : UInt32)
  | blankCheck (first last : UInt32)
  | compare (address1 address2 size : UInt32)
  | readPartId
  | readBootVersion
  | readUid
  deriving DecidableEq, Repr

namespace IspCommand

/-- The command's name on the command line. -/
def name : IspCommand → String
  | .synchronize => "synchronize"
  | .unlock => "unlock"
  | .readMemory .. => "read-memory"
  | .writeToRam .. => "write-to-ram"
  | .prepareForWrite .. => "prepare-for-write"
  | .copyRamToFlash .. => "copy-ram-to-flash"
  | .go .. => "go"
  | .erase .. => "erase"
  | .blankCheck .. => "blank-check"
  | .compare .. => "compare"
  | .readPartId => "read-part-id"
  | .readBootVersion => "read-boot-version"
  | .readUid => "read-uid"

/-- Numbers a command has to be given. -/
def numbers (names : List String) : List Parameter :=
  names.map fun name => { name, kind := some .word, required := true }

/-- The flag for raw transfers. -/
def rawFlag : Parameter := { name := "raw", kind := none, short := some 'r' }

/-- The grammars of the commands; all of them take the options in `shared`. -/
def grammars (shared : List Parameter) : List Grammar := [
  .command "synchronize" shared [] [],
  .command "unlock" shared [] [],
  .command "read-memory" (rawFlag :: shared)
    (numbers ["address", "count"] ++ [{ name := "output", kind := some .path }]) [],
  .command "write-to-ram" (rawFlag :: shared)
    (numbers ["address"] ++ [{ name := "file", kind := some .path, required := true }]) [],
  .command "prepare-for-write" shared (numbers ["first", "last"]) [],
  .command "copy-ram-to-flash" shared (numbers ["flash_address", "ram_address", "size"]) [],
  .command "go" shared (numbers ["address"] ++ [{ name := "mode", kind := some .text }]) [],
  .command "erase" shared (numbers ["first", "last"]) [],
  .command "blank-check" shared (numbers ["first", "last"]) [],
  .command "compare" shared (numbers ["address1", "address2", "size"]) [],
  .command "read-part-id" shared [] [],
  .command "read-boot-version" shared [] [],
  .command "read-uid" shared [] []]

/-- The output that stands for a hexdump on standard output. -/
def standardOutput : String := "-"

/-- The command of a name, with the arguments that were given. -/
def ofGiven (name : String) (g : Given) : IspCommand :=
  match name with
  | "unlock" => .unlock
  | "read-memory" =>
    .readMemory (g.word "address") (g.word "count") (g.text "output" standardOutput) (g.flag "raw")
  | "write-to-ram" => .writeToRam (g.word "address") (g.text "file" "") (g.flag "raw")
  | "prepare-for-write" => .prepareForWrite (g.word "first") (g.word "last")
  | "copy-ram-to-flash" =>
    .copyRamToFlash (g.word "flash_address") (g.word "ram_address") (g.word "size")
  | "go" => .go (g.word "address") (g.text "mode" "thumb")
  | "erase" => .erase (g.word "first") (g.word "last")
  | "blank-check" => .blankCheck (g.word "first") (g.word "last")
  | "compare" => .compare (g.word "address1") (g.word "address2") (g.word "size")
  | "read-part-id" => .readPartId
  | "read-boot-version" => .readBootVersion
  | "read-uid" => .readUid
  | _ => .synchronize

end IspCommand

/-- A single bootloader command, and how its device is reached. -/
structure IspArguments where
  connect : ConnectArguments
  /-- Synchronize before the command is run. -/
  synchronize : Bool
  command : IspCommand
  deriving DecidableEq, Repr

namespace IspArguments

/-- The grammar, whose commands all take the options in `shared`. -/
def grammar (shared : List Parameter) : Grammar :=
  .command "isp"
    (ConnectArguments.options ++ [{ name := "synchronize", kind := none, short := some 's' }] ++
      shared)
    [] (IspCommand.grammars shared)

/-- The arguments that were given. -/
def ofGiven (g : Given) : IspArguments where
  connect := .ofGiven g
  synchronize := g.flag "synchronize"
  command := .ofGiven (g.path.getLastD "") g

/-- Reads the arguments for a single command. -/
def parse (env : Environment) (arguments : List String) : Except UsageFault IspArguments := do
  return ofGiven (← (grammar []).parse false env arguments)

end IspArguments

/-! ## The program -/

/-- What the program is asked to do. -/
inductive Request where
  | identify (connect : ConnectArguments)
  | dump (output : String) (connect : ConnectArguments)
  | flash (image : String) (noUserCode verify : Bool) (connect : ConnectArguments)
  | erase (connect : ConnectArguments)
  | execute (connect : ConnectArguments)
  | isp (arguments : IspArguments)
  | checkImage (image : String) (noUserCode : Bool) (output : Option String)
  | listParts (parts : Option String)
  | completions (shell : String)
  deriving DecidableEq, Repr

namespace Request

/-- The program's name. -/
def programName : String := "lpcflash"

/-- The program's version. -/
def programVersion : String := "0.1.0"

/-- The option for what is told, which every command takes. -/
def logLevel : Parameter where
  name := "log-level"
  kind := some (.oneOf ["off", "error", "warn", "info", "debug", "trace"] true)
  environmentName := some "LOG_LEVEL"

/-- The shells that completions can be asked for. -/
def shells : List String := ["bash", "elvish", "fish", "powershell", "zsh"]

/-- A flag without a letter. -/
def flagNamed (name : String) : Parameter := { name, kind := none }

/-- A positional argument that names a file. -/
def fileNamed (name : String) : Parameter := { name, kind := some .path, required := true }

/-- The grammar of the program. -/
def grammar : Grammar :=
  let connect := ConnectArguments.options ++ [logLevel]
  .command programName [logLevel] [] [
    .command "id" connect [] [],
    .command "dump" connect [fileNamed "output"] [],
    .command "flash" ([flagNamed "no-user-code", flagNamed "verify"] ++ connect)
      [fileNamed "image"] [],
    .command "erase" connect [] [],
    .command "execute" connect [] [],
    IspArguments.grammar [logLevel],
    .command "check-image"
      [flagNamed "no-user-code", { name := "output", kind := some .path, short := some 'o' },
        logLevel]
      [fileNamed "image"] [],
    .command "list-parts" [{ name := "parts", kind := some .path }, logLevel] [] [],
    .command "completions" [logLevel]
      [{ name := "shell", kind := some (.oneOf shells false), required := true }] []]

/-- The request that was made. -/
def ofGiven (g : Given) : Request :=
  let connect := ConnectArguments.ofGiven g
  match g.path[1]? with
  | some "dump" => .dump (g.text "output" "") connect
  | some "flash" => .flash (g.text "image" "") (g.flag "no-user-code") (g.flag "verify") connect
  | some "erase" => .erase connect
  | some "execute" => .execute connect
  | some "isp" => .isp (.ofGiven g)
  | some "check-image" =>
    .checkImage (g.text "image" "") (g.flag "no-user-code") (g.text? "output")
  | some "list-parts" => .listParts (g.text? "parts")
  | some "completions" => .completions (g.text "shell" "")
  | _ => .identify connect

/-- Reads the arguments of the program: the request, and what is to be told, if that was
    given. -/
def parse (env : Environment) (arguments : List String) :
    Except UsageFault (Request × Option String) := do
  let g ← grammar.parse true env arguments
  return (ofGiven g, (g.text? "log-level").map lowerCase)

end Request
end SerialIsp.CommandLine
