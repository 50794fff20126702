import SerialIsp.CommandLine.Desk

/-!
# What a request can reach

A request is answered on files and ports as values. These are the paths it can look at, and
the port it can open, so that no more of a host than that has to be made a value.
-/

namespace SerialIsp

/-- The location a path names, whether or not there is anything. -/
def Files.named (workingDirectory : Location) (path : String) : Location :=
  let start := if path.toList.head? = some '/' then [] else workingDirectory
  (Files.components path).foldl
    (fun l name => if name = "." then l else if name = ".." then l.dropLast else l ++ [name]) start

/-- The files of `after` that are new or changed since `before`. -/
def Files.changes (before after : Files) : List (Location × Bytes) :=
  after.entries.filter fun e => before.file? e.1 ≠ some e.2

namespace CommandLine.Request

/-- How a request reaches its device, if it has one. -/
def connection? : Request → Option ConnectArguments
  | .identify a | .dump _ a | .flash _ _ _ a | .erase a | .execute a => some a
  | .isp a => some a.connect
  | .checkImage .. | .listParts _ | .completions _ => none

/-- The port a request opens: the one that is given or configured, else the only one. -/
def portName? (r : Request) (c : Config) (detected : List String) : Option String := do
  let a ← r.connection?
  (a.port.or c.port).or (onlyPort detected).toOption

/-- The files a single command names. -/
def ispPaths : IspCommand → List String
  | .readMemory _ _ output _ => [output]
  | .writeToRam _ file _ => [file]
  | _ => []

/-- The files a request names itself. -/
def ownPaths : Request → List String
  | .dump output _ => [output]
  | .flash image _ _ _ => [image]
  | .checkImage image _ output => image :: output.toList
  | .listParts parts => parts.toList
  | .isp a => ispPaths a.command
  | .identify _ | .erase _ | .execute _ | .completions _ => []

/-- The paths a request can look at, under a configuration. -/
def paths (r : Request) (c : Config) (detected : List String) : List String :=
  r.ownPaths ++ ((r.connection?.bind (·.parts)).or c.partsFile).toList ++
    Part.Source.defaultFiles ++ (r.portName? c detected).toList

end CommandLine.Request
end SerialIsp
