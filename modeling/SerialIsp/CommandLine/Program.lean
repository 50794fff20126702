import SerialIsp.CommandLine.Isp
import SerialIsp.Programmer.Basic
import SerialIsp.Text.Table

/-!
# Running the program

Every request is answered at the desk: checks and lists without a device, the rest over a
port. The exit status is 0 where the request was answered, 1 where it failed, and 2 where
the arguments were not understood.
-/

namespace SerialIsp.CommandLine

/-! ## Without a device -/

/-- What is done about the eighth vector: it is computed, unless that is turned off by an
    argument or in the configuration. -/
def userCodeFor (noUserCode : Bool) (c : Config) : UserCode :=
  if noUserCode || !c.computeUserCode then .verify else .compute

/-- Loads an image. -/
def loadImage (path : String) (desk : Desk) : Except Failure Image × Desk :=
  match desk.files.read path with
  | .error fault => (.error (.unreadableFile path fault), desk)
  | .ok content => (Image.ofBytes content, desk.tell (.imageLoaded content.length path))

/-- Checks an image and writes it, with its eighth vector as it has to be, where an output is
    named. -/
def runCheckImage (path : String) (mode : UserCode) (output : Option String) (desk : Desk) :
    Except RunFault Unit × Desk :=
  match loadImage path desk with
  | (.error failure, desk) => (.error (.failure failure), desk)
  | (.ok image, desk) =>
    let desk := desk.printLine s!"Image size:       {image.length} bytes"
    let desk := desk.printLine ("Stored checksum:  " ++ Text.hexWord image.storedSum.toNat)
    let desk := desk.printLine ("Vector checksum:  " ++ Text.hexWord image.expectedSum.toNat)
    let desk := (image.sumNotices mode).foldl Desk.tell desk
    match image.prepare mode with
    | .error failure => (.error (.failure failure), desk)
    | .ok image =>
      let desk := desk.printLine ("Code read protection word: " ++
        Text.hexWord image.protection.toNat ++ " (not protected)")
      match output with
      | none => (.ok (), desk)
      | some path =>
        match desk.files.write path image.data with
        | .error fault => (.error (.imageOutput path fault), desk)
        | .ok files => (.ok (), { desk with files }.tell (.imageWritten path))

/-- The header of the table of parts. -/
def partsHeader : List String := ["Part", "ID", "Flash", "Sectors", "RAM", "Buffer", "UU"]

/-- A part as a row of the table. -/
def partsRow (p : Part) : List String :=
  let kib (size : UInt32) : String := s!" ({size / 1024}KiB)"
  [p.name,
    Text.hexWord p.id.toNat,
    Text.hexMarked p.flashBase.toNat ++ kib p.flashSize,
    s!"{p.flashSectors} x {p.sectorSize}",
    Text.hexMarked p.ramBase.toNat ++ kib p.ramSize,
    Text.hexMarked p.ramBufferAddress.toNat ++ s!" ({p.ramBufferSize} bytes)",
    if p.encoding = .lines then "yes" else "no"]

/-- Prints the parts a source describes. -/
def runListParts (source : Part.Source) (desk : Desk) : Except RunFault Unit × Desk :=
  match source.all desk.files with
  | .error failure => (.error (.failure failure), desk)
  | .ok parts => (.ok (), desk.printLine (Text.table partsHeader (parts.map partsRow)))

/-! ## Over a port -/

section

open Bench

variable {π : Type} [Port π]

/-- Synchronizes with the device and identifies it. -/
def identifyDevice (a : ConnectArguments) (c : Config) : BenchM π Part := do
  let files := (← get).files
  let source := a.partSource c files
  tell (.partsFrom source.text)
  onSession (Session.connect (a.crystalFrequency c) source files)

/-- Runs an operation of a programmer of a part. -/
def onProgrammer {α : Type} (part : Part) (action : ProgrammerM (SerialLine π) α) :
    BenchM π α := fun b =>
  let (result, p) := action { session := b.session, part }
  (result.mapError .failure, { b with session := p.session })

/-- Prints what the device says about itself. -/
def runIdentify (a : ConnectArguments) (c : Config) : BenchM π Unit := do
  let part ← identifyDevice a c
  let info ← onProgrammer part Programmer.deviceInfo
  printLine info.text

/-- Writes the content of the flash to a file, which is made before anything is read. -/
def runDump (output : String) (a : ConnectArguments) (c : Config) : BenchM π Unit := do
  let part ← identifyDevice a c
  writeFile output []
  let data ← onProgrammer part (Programmer.readFlash true)
  writeFile output data
  tell (.dumped data.length)
  tell (.dumpWritten output)

/-- Programs an image. -/
def runFlash (image : Image) (mode : UserCode) (verify : Bool) (a : ConnectArguments)
    (c : Config) : BenchM π Unit := do
  let part ← identifyDevice a c
  onProgrammer part (Programmer.flash image mode verify true)
  tell .flashingDone

/-- Erases the flash. -/
def runErase (a : ConnectArguments) (c : Config) : BenchM π Unit := do
  let part ← identifyDevice a c
  onProgrammer part (Programmer.erase true)

/-- Starts the program in flash. -/
def runExecute (a : ConnectArguments) (c : Config) : BenchM π Unit := do
  let part ← identifyDevice a c
  let _ ← onProgrammer part Programmer.execute

/-! ## Requests -/

/-- Answers a request under a configuration. -/
def Request.answer (r : Request) (s : Setting π) (desk : Desk) : Outcome π :=
  let c := s.config
  let plain (step : Desk → Except RunFault Unit × Desk) : Outcome π :=
    let (result, desk) := step desk
    { result, desk }
  match r with
  | .identify a => s.withPort a (runIdentify a c) desk
  | .dump output a => s.withPort a (runDump output a c) desk
  | .flash image noUserCode verify a =>
    match loadImage image desk with
    | (.error failure, desk) => { result := .error (.failure failure), desk }
    | (.ok image, desk) => s.withPort a (runFlash image (userCodeFor noUserCode c) verify a c) desk
  | .erase a => s.withPort a (runErase a c) desk
  | .execute a => s.withPort a (runExecute a c) desk
  | .isp a => a.run s desk
  | .checkImage image noUserCode output => plain (runCheckImage image (userCodeFor noUserCode c) output)
  | .listParts parts => plain (runListParts (parts.elim .builtIn .file))
  -- a shell completes the names of the commands
  | .completions _ =>
    plain fun desk => (.ok (), (Request.grammar.commands.map (·.name)).foldl Desk.printLine desk)

/-- Answers a request, under the configuration that is found. -/
def Request.run (r : Request) (env : Environment) (ports : Ports π) (detected : List String)
    (desk : Desk) : Outcome π :=
  match Config.load desk.files env with
  | .error fault => { result := .error (.config fault), desk }
  | .ok config => r.answer { ports, detected, config } desk

/-- The exit status of the program, and what it leaves behind. -/
structure Exit (π : Type) where
  status : Nat
  /-- Why it failed, if it did. -/
  fault : Option (UsageFault ⊕ RunFault) := none
  /-- What is to be told, if that was given. -/
  logLevel : Option String := none
  desk : Desk
  port : Option π := none

/-- Runs the program. -/
def run (arguments : List String) (env : Environment) (ports : Ports π) (detected : List String)
    (desk : Desk) : Exit π :=
  match Request.parse env arguments with
  | .error .help => { status := 0, fault := some (.inl .help), desk }
  | .error (.version title) =>
    { status := 0, desk := desk.printLine (title ++ " " ++ Request.programVersion) }
  | .error fault => { status := 2, fault := some (.inl fault), desk }
  | .ok (request, logLevel) =>
    let outcome := request.run env ports detected desk
    match outcome.result with
    | .ok () => { status := 0, logLevel, desk := outcome.desk, port := outcome.port }
    | .error fault =>
      { status := 1, fault := some (.inr fault), logLevel, desk := outcome.desk,
        port := outcome.port }

end

end SerialIsp.CommandLine
