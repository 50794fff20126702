import SerialIsp.CommandLine.Program
import SerialIsp.CommandLine.Reach
import SerialIsp.CommandLine.Wording
import SerialIsp.Session.Conversation

/-!
# The program

What a request can reach is read from the host, the request is answered on it, and what
changed is written back. Work over a port is repeated with one more reply each time, until
it asks for nothing more.

The node of the port has to be set up before: raw, without echo, at its baud rate, and with
reads that come back when the line has been silent for a moment.
-/

namespace SerialIsp.Host

/-! ## The host as values -/

/-- The environment variables that mean something. -/
def environmentNames : List String :=
  ["LPCFLASH_PORT", "LPCFLASH_BAUD", "LPCFLASH_PARTS", "LOG_LEVEL", "HOME", "XDG_CONFIG_HOME"]

/-- What they are set to. -/
def environment : IO Environment :=
  environmentNames.filterMapM fun name => do
    return (← IO.getEnv name).map fun value => (name, value)

/-- The working directory. -/
def workingDirectory : IO Location := do
  return Files.named [] (← IO.currentDir).toString

/-- What kind of thing is at a path. -/
def kindOf (path : String) : IO (Option IO.FS.FileType) := do
  try
    return some (← (System.mkFilePath [path]).metadata).type
  catch _ => return none

/-- Adds what is on the way to a location, and at it. -/
def survey (files : Files) (l : Location) : IO Files :=
  (List.range (l.length + 1)).foldlM (fun files n => do
    let here := l.take n
    match ← kindOf (Files.absolute here) with
    | some .dir => return { files with folders := here :: files.folders }
    | some .file => return files.put here (← IO.FS.readBinFile (Files.absolute here)).toList
    | _ => return files) files

/-- Adds what is at paths. -/
def surveyPaths (files : Files) (paths : List String) : IO Files :=
  paths.foldlM (fun files path => survey files (Files.named files.workingDirectory path)) files

/-- The ports that can be seen. -/
def detectedPorts : IO (List String) := do
  let nodes ← try (System.mkFilePath ["/dev"]).readDir catch _ => pure #[]
  let names := nodes.toList.map (·.fileName)
  return (names.filter fun name => name.startsWith "ttyUSB" || name.startsWith "ttyACM").map
    ("/dev/" ++ ·)

/-! ## The port -/

/-- The node of a port, open for both directions. -/
structure Node where
  reading : IO.FS.Handle
  writing : IO.FS.Handle

/-- Opens the node of a port, if a path leads to one. -/
def openNode (path : String) : IO (Option Node) := do
  match ← kindOf path with
  | some .other =>
    let reading ← IO.FS.Handle.mk path .read
    let writing ← IO.FS.Handle.mk path .readWrite
    return some { reading, writing }
  | _ => return none

/-- A fault of the host as one of a port. -/
def portFault (fault : IO.Error) : PortFault :=
  match fault with
  | .timeExpired .. => .system .timedOut (toString fault)
  | .noFileOrDirectory .. => .system .notFound (toString fault)
  | .unexpectedEof => .system .unexpectedEnd (toString fault)
  | _ => .system .other (toString fault)

/-- Collects what arrives until there is enough or the time is over. -/
partial def collect (node : Node) (wanted stop : Nat) (got : ByteArray) : IO ByteArray := do
  let got := got ++ (← node.reading.read 4096)
  if wanted ≤ got.size || stop ≤ (← IO.monoMsNow) then return got
  else collect node wanted stop got

/-- Carries out an ask. -/
def carryOut (node : Node) (ask : Ask) : IO Reply := do
  try
    match ask with
    | .write data =>
      node.writing.write (ByteArray.mk data.toArray)
      node.writing.flush
      return .taken data.length
    | .read wanted timeout =>
      let stop := (← IO.monoMsNow) + timeout
      return .arrived (← collect node wanted stop .empty).toList
    | .clear =>
      let _ ← node.reading.read 4096
      return .cleared
  catch fault => return .failed (portFault fault)

/-- Repeats work over a port with the replies so far, until it asks for nothing more. -/
partial def converse (node : Node) (work : Conversation → CommandLine.Exit Conversation)
    (replies : Array Reply) : IO (CommandLine.Exit Conversation) := do
  let exit := work { replies := replies.toList }
  match exit.port.bind (·.unanswered) with
  | none => return exit
  | some ask => converse node work (replies.push (← carryOut node ask))

/-! ## Answering -/

/-- Answers a request on what it can reach. -/
def answer (arguments : List String) (env : Environment) (detected : List String) (files : Files)
    (portName : Option String) : IO (CommandLine.Exit Conversation) := do
  let run (ports : CommandLine.Ports Conversation) :=
    CommandLine.run arguments env ports detected { files }
  match ← portName.bindM openNode with
  | none => return run fun _ => none
  | some node =>
    converse node (fun c => run fun name => if portName = some name then some c else none) #[]

/-- Says why the program failed. -/
def complain (fault : CommandLine.UsageFault ⊕ CommandLine.RunFault) : IO Unit := do
  match fault with
  | .inl .help => CommandLine.Request.grammar.usage.forM fun line => IO.println line
  | .inl fault => IO.eprintln ("Error: " ++ fault.message)
  | .inr fault => fault.lines.forM fun line => IO.eprintln line

end SerialIsp.Host

open SerialIsp in
/-- Runs the program on its arguments. -/
def main (arguments : List String) : IO UInt32 := do
  let env ← Host.environment
  let detected ← Host.detectedPorts
  let workingDirectory ← Host.workingDirectory
  let bare : Files := { workingDirectory, entries := [] }
  let files ← Host.surveyPaths bare (Config.candidates workingDirectory env)
  let config := (Config.load files env).toOption.getD {}
  let request := (CommandLine.Request.parse env arguments).toOption.map (·.1)
  let files ← Host.surveyPaths files (request.elim [] (·.paths config detected))
  let exit ← Host.answer arguments env detected files
    (request.bind (·.portName? config detected))
  for (l, content) in files.changes exit.desk.files do
    IO.FS.writeBinFile (Files.absolute l) (ByteArray.mk content.toArray)
  IO.print exit.desk.printed
  (exit.desk.shown (exit.logLevel.getD CommandLine.defaultLevel)).forM fun line => IO.eprintln line
  exit.fault.forM Host.complain
  return exit.status.toUInt32
