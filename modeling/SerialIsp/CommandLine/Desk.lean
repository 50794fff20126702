import SerialIsp.CommandLine.Arguments
import SerialIsp.Session.Serial

/-!
# At the desk

What a command works on besides the device: the files, what it printed, and what it told. A
command that opens a port goes on at a `Bench`, where a session stands beside the desk.
-/

namespace SerialIsp.CommandLine

/-- Why a command failed. -/
inductive RunFault where
  | failure (failure : Failure)
  | config (fault : Config.Fault)
  /-- A checked image could not be written. -/
  | imageOutput (path : String) (fault : FileFault)
  deriving DecidableEq, Repr

/-- The files, what was printed on standard output, and what was told. -/
structure Desk where
  files : Files
  printed : String := ""
  notices : Array Notice := #[]
  deriving Inhabited

namespace Desk

/-- Prints text. -/
def print (d : Desk) (text : String) : Desk := { d with printed := d.printed ++ text }

/-- Prints a line. -/
def printLine (d : Desk) (text : String) : Desk := d.print (text ++ "\n")

/-- Tells a notice. -/
def tell (d : Desk) (notice : Notice) : Desk := { d with notices := d.notices.push notice }

end Desk

/-- What a command came to: its result, the desk after it, and the port it opened. -/
structure Outcome (π : Type) where
  result : Except RunFault Unit
  desk : Desk
  port : Option π := none

/-- The ports of a host, by name. -/
abbrev Ports (π : Type) : Type := String → Option π

/-- A desk with an open port on it. What is told at the bench is told by the session. -/
structure Bench (π : Type) where
  files : Files
  printed : String
  session : Session (SerialLine π)

/-- Actions at a bench. -/
abbrev BenchM (π : Type) (α : Type) : Type := ExceptT RunFault (StateM (Bench π)) α

namespace Bench

variable {π α : Type}

/-- Runs an action on the session. -/
def onSession (action : SessionM (SerialLine π) α) : BenchM π α := fun b =>
  let (result, session) := action b.session
  (result.mapError .failure, { b with session })

/-- Tells a notice. -/
def tell (notice : Notice) : BenchM π Unit := onSession (Session.notify notice)

/-- Fails. -/
def fail (failure : Failure) : BenchM π α := throw (.failure failure)

/-- Prints text. -/
def print (text : String) : BenchM π Unit := modify fun b => { b with printed := b.printed ++ text }

/-- Prints a line. -/
def printLine (text : String) : BenchM π Unit := print (text ++ "\n")

/-- The content of a file. -/
def readFile (path : String) : BenchM π Bytes := do
  match (← get).files.read path with
  | .error fault => fail (.unreadableFile path fault)
  | .ok content =>
    tell (.fileRead content.length path)
    return content

/-- Writes a whole file. -/
def writeFile (path : String) (content : Bytes) : BenchM π Unit := do
  match (← get).files.write path content with
  | .error fault => fail (.unwritableOutput fault)
  | .ok files => modify fun b => { b with files }

end Bench

/-- The baud rate of the bootloader where none is given or configured. -/
def defaultBaud : UInt32 := 115200

/-- The one port of the host, when none is named. -/
def onlyPort : List String → Except Failure String
  | [] => .error .noPorts
  | [name] => .ok name
  | names => .error (.severalPorts (String.intercalate ", " names))

/-- The port to open: the one that is given or configured, which has to exist, else the only
    one there is. -/
def choosePort {π : Type} (ports : Ports π) (detected : List String) (a : ConnectArguments)
    (c : Config) (fs : Files) : Except Failure String :=
  match a.port.or c.port with
  | some name =>
    if (ports name).isSome ∨ fs.pathExists name then .ok name else .error (.portNotFound name)
  | none => onlyPort detected

/-- Opens a port. What exists but is no port cannot be opened as one. -/
def openPort {π : Type} (ports : Ports π) (fs : Files) (name : String) : Except Failure π :=
  match ports name with
  | some port => .ok port
  | none =>
    let text := if fs.isFile name then "Not a typewriter" else "Is a directory"
    .error (.connecting (.ofPort (.driver .other text)))

/-- Where commands are run: the ports of the host, those that were detected, and the
    configuration. -/
structure Setting (π : Type) where
  ports : Ports π
  detected : List String := []
  config : Config := {}

/-- Opens the port a command asks for and works with it. -/
def Setting.withPort {π : Type} (s : Setting π) (a : ConnectArguments) (work : BenchM π Unit)
    (desk : Desk) : Outcome π :=
  match choosePort s.ports s.detected a s.config desk.files with
  | .error failure => { result := .error (.failure failure), desk }
  | .ok name =>
    let baud := (a.baud.or s.config.baud).getD defaultBaud
    let desk := (desk.tell (.portChosen name baud)).tell (.openingPort name baud)
    match openPort s.ports desk.files name with
    | .error failure => { result := .error (.failure failure), desk }
    | .ok port =>
      let session : Session (SerialLine π) :=
        { Session.start ⟨port⟩ a.settings with journal := { notices := desk.notices } }
      let (result, bench) := work { files := desk.files, printed := desk.printed, session }
      { result
        desk :=
          { files := bench.files, printed := bench.printed, notices := bench.session.journal.notices }
        port := some bench.session.device.port }

end SerialIsp.CommandLine
