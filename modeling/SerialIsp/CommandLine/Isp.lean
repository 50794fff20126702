import SerialIsp.CommandLine.Desk
import SerialIsp.Session.Handshake
import SerialIsp.Session.Memory

/-!
# Running single bootloader commands

A command is run on a device that an earlier run left synchronized, unless synchronization
is asked for.
-/

namespace SerialIsp.CommandLine

open Bench

variable {π : Type} [Port π]

/-- How contents travel: raw where that is asked for. -/
def encodingFor (raw : Bool) : Encoding := if raw then .raw else .lines

namespace IspCommand

/-- Reads memory into a file or onto standard output. -/
def runReadMemory (address count : UInt32) (output : String) (raw : Bool) : BenchM π Unit := do
  let data ← onSession (Session.readMemory address count (encodingFor raw) false)
  if output = standardOutput then print (Text.hexdump data address)
  else
    writeFile output data
    tell (.fileWritten data.length output)

/-- Writes a file into RAM, with zeros up to a whole number of words. -/
def runWriteToRam (address : UInt32) (file : String) (raw : Bool) : BenchM π Unit := do
  let content ← readFile file
  let data := content.padTo (Bytes.roundUp 4 content.length)
  onSession (Session.writeToRam address data (encodingFor raw))
  tell (.ramWritten data.length address)

/-- Copies RAM to flash. -/
def runCopy (flashAddress ramAddress size : UInt32) : BenchM π Unit := do
  onSession (Session.ofExcept (checkCopyArguments flashAddress ramAddress size))
  onSession (Session.copyRamToFlash flashAddress ramAddress size)
  tell (.copied size ramAddress flashAddress)

/-- Starts code in the mode of a name. -/
def runGo (address : UInt32) (mode : String) : BenchM π Unit := do
  match Wire.ExecutionMode.ofName? mode with
  | none => fail (.executionMode mode)
  | some mode =>
    onSession (Session.go address mode)
    tell (.started address mode)

/-- Looks for what is not blank. -/
def runBlankCheck (first last : UInt32) : BenchM π Unit := do
  match ← onSession (Session.blankCheck first last) with
  | .blank => printLine s!"Sectors {first} to {last} are blank"
  | .used offset content =>
    printLine ("Not blank: first non-blank word at offset " ++ Text.hexMarked offset.toNat ++
      " holds " ++ Text.hexWord content.toNat)

/-- Compares memory. -/
def runCompare (address1 address2 size : UInt32) : BenchM π Unit := do
  match ← onSession (Session.compare address1 address2 size) with
  | none => printLine "Regions are identical"
  | some offset =>
    printLine ("Regions differ, first difference at offset " ++ Text.hexMarked offset.toNat)

/-- Runs a command over an open port. -/
def run : IspCommand → BenchM π Unit
  | .synchronize => return ()
  | .unlock => do
    onSession Session.unlock
    tell .unlocked
  | .readMemory address count output raw => runReadMemory address count output raw
  | .writeToRam address file raw => runWriteToRam address file raw
  | .prepareForWrite first last => do
    onSession (Session.prepareForWrite first last)
    tell (.prepared first last)
  | .copyRamToFlash flashAddress ramAddress size => runCopy flashAddress ramAddress size
  | .go address mode => runGo address mode
  | .erase first last => do
    onSession (Session.eraseSectors first last)
    tell (.sectorsErased first last)
  | .blankCheck first last => runBlankCheck first last
  | .compare address1 address2 size => runCompare address1 address2 size
  | .readPartId => do
    let id ← onSession Session.readPartId
    printLine ("Part ID: " ++ Text.hexWord id.toNat ++ s!" ({id})")
  | .readBootVersion => do
    let version ← onSession Session.readBootVersion
    printLine ("Boot code version: " ++ version.text)
  | .readUid => do
    let uid ← onSession Session.readUid
    printLine ("UID: " ++ uid.text)

end IspCommand

/-- Synchronizes, or takes the device as synchronized. -/
def IspArguments.prepare (a : IspArguments) (c : Config) : BenchM π Unit := do
  if a.synchronize ∨ a.command = .synchronize then
    let crystal := a.connect.crystalFrequency c
    onSession (Session.synchronize crystal false)
    tell (.synchronizedByUser crystal)
  else onSession Session.assumeSynchronized

/-- Runs a single command. -/
def IspArguments.run (a : IspArguments) (s : Setting π) (desk : Desk) : Outcome π :=
  s.withPort a.connect (do
    a.prepare s.config
    a.command.run) desk

end SerialIsp.CommandLine
