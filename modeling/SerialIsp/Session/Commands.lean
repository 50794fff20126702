import SerialIsp.Session.Reading

/-!
# Bootloader commands

Each command is one line, answered by a status. Some are followed by number lines when they
succeed. Arguments that the bootloader would refuse, or that make no sense, are refused here
before anything is sent.
-/

namespace SerialIsp

/-- What a blank check found. -/
inductive BlankCheck where
  | blank
  /-- The first word that is not blank. -/
  | used (offset content : UInt32)
  deriving DecidableEq, Repr

/-- The version of the bootloader. -/
structure BootVersion where
  major : UInt32
  minor : UInt32
  deriving DecidableEq, Repr

/-- The version as it is usually written. -/
def BootVersion.text (v : BootVersion) : String := s!"{v.major}.{v.minor}"

/-- The serial number of a device, least significant word first. -/
structure Uid where
  word0 : UInt32
  word1 : UInt32
  word2 : UInt32
  word3 : UInt32
  deriving DecidableEq, Repr

/-- The words of a serial number. -/
def Uid.words (u : Uid) : List UInt32 := [u.word0, u.word1, u.word2, u.word3]

/-- The serial number in hexadecimal words. -/
def Uid.text (u : Uid) : String :=
  String.intercalate " " (u.words.map fun w => Text.hexFilled 8 w.toNat)

/-- Refuses an argument that is no multiple of `alignment`. -/
def checkAlignment (operand : Operand) (value alignment : UInt32) : Except Failure Unit :=
  if value % alignment ≠ 0 then .error (.misaligned operand value alignment) else .ok ()

/-- Refuses a range of sectors that runs backwards. -/
def checkSectorRange (first last : UInt32) : Except Failure Unit :=
  if last < first then .error (.sectorRange first last) else .ok ()

/-- The numbers of bytes the bootloader copies to flash. -/
def copySizes : List UInt32 := [256, 512, 1024, 4096]

/-- Refuses arguments of a copy to flash that the bootloader would refuse. -/
def checkCopyArguments (flashAddress ramAddress size : UInt32) : Except Failure Unit := do
  checkAlignment .flashAddress flashAddress 256
  checkAlignment .ramAddress ramAddress 4
  if copySizes.contains size then .ok () else .error (.copyLength size)

namespace Session

open Wire

variable {δ : Type} [Transport δ]

/-- Sends a command and reads its status, with at least the patience its kind needs. -/
def commandStatus (c : Command) : SessionM δ Status := do
  notify (.sendingCommand c)
  let timeout := max c.kind.patience (← get).settings.timeout
  let status ← during c.kind <| withTimeout timeout do
    writeBytes c.line
    readStatus
  traceNotice (.statusTraced c.kind status)
  return status

/-- Sends a command that has to succeed. -/
def command (c : Command) : SessionM δ Unit := do
  let status ← commandStatus c
  if !status.isSuccess then
    if !(← get).settings.trace then notify (.statusRefused c.kind status)
    throw (.refused c.kind status)

/-- Reads a number line that belongs to a command. -/
def replyNumber (kind : CommandKind) : SessionM δ UInt32 := during kind readNumber

/-- Reads `n` number lines that belong to a command. -/
def replyNumbers (kind : CommandKind) : Nat → SessionM δ (List UInt32)
  | 0 => return []
  | n + 1 => do
    let first ← replyNumber kind
    return first :: (← replyNumbers kind n)

/-- Sends a command that has to succeed, and reads the number lines of its kind. -/
def query (c : Command) : SessionM δ (List UInt32) := do
  command c
  replyNumbers c.kind c.kind.replyLines

/-- Unlocks the commands that change the flash or start code. -/
def unlock : SessionM δ Unit := command .unlock

/-- The identifier of the part. -/
def readPartId : SessionM δ UInt32 := do
  let reply ← query .readPartId
  return reply.getD 0 0

/-- The serial number of the device. -/
def readUid : SessionM δ Uid := do
  let reply ← query .readUid
  return ⟨reply.getD 0 0, reply.getD 1 0, reply.getD 2 0, reply.getD 3 0⟩

/-- The version of the bootloader, which sends the minor number first. -/
def readBootVersion : SessionM δ BootVersion := do
  let reply ← query .readBootVersion
  return { minor := reply.getD 0 0, major := reply.getD 1 0 }

/-- Prepares sectors to be erased or written. -/
def prepareForWrite (first last : UInt32) : SessionM δ Unit := do
  ofExcept (checkSectorRange first last)
  command (.prepareForWrite first last)

/-- Erases sectors, which have to be prepared. -/
def eraseSectors (first last : UInt32) : SessionM δ Unit := do
  ofExcept (checkSectorRange first last)
  command (.erase first last)

/-- Looks for the first word of some sectors that is not blank. -/
def blankCheck (first last : UInt32) : SessionM δ BlankCheck := do
  ofExcept (checkSectorRange first last)
  match ← commandStatus (.blankCheck first last) with
  | .known .cmdSuccess => return .blank
  | .known .sectorNotBlank =>
    let offset ← replyNumber .blankCheck
    let content ← replyNumber .blankCheck
    return .used offset content
  | status => throw (.refused .blankCheck status)

/-- Copies `size` bytes from RAM to flash, whose sectors have to be prepared. -/
def copyRamToFlash (flashAddress ramAddress size : UInt32) : SessionM δ Unit := do
  ofExcept (checkAlignment .ramAddress ramAddress 4)
  command (.copyRamToFlash flashAddress ramAddress size)

/-- Compares two stretches of memory; the offset of the first difference, if any. -/
def compare (address1 address2 size : UInt32) : SessionM δ (Option UInt32) := do
  ofExcept (checkAlignment .firstAddress address1 4)
  ofExcept (checkAlignment .secondAddress address2 4)
  ofExcept (checkAlignment .byteCount size 4)
  match ← commandStatus (.compare address1 address2 size) with
  | .known .cmdSuccess => return none
  | .known .compareError => return some (← replyNumber .compare)
  | status => throw (.refused .compare status)

/-- The lowest address code can be started at; the vectors lie below it. -/
def lowestEntry : UInt32 := 0x200

/-- Starts code at an address. -/
def go (address : UInt32) (mode : ExecutionMode) : SessionM δ Unit := do
  if address < lowestEntry then throw (.jumpAddress address)
  command (.go address mode)

end Session
end SerialIsp
