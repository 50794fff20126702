import SerialIsp.Programmer.Plan
import SerialIsp.Session.Memory

/-!
# Flash operations

What is done to the flash of a part over a session: erasing every sector that is not blank,
writing the blocks of a plan through the RAM buffer, reading back, and starting the program.
Each is a sequence of bootloader commands that ends with the first one that fails.
-/

namespace SerialIsp.Session

open Wire

variable {δ : Type} [Transport δ]

/-- Marks a failure of the line as one that struck while programming. -/
def whileFlashing {α : Type} (action : SessionM δ α) : SessionM δ α := fun s =>
  match action s with
  | (.ok a, s') => (.ok a, s')
  | (.error failure, s') => (.error failure.whileFlashing, s')

/-! ## Erasing -/

/-- Erases a sector unless it is blank; whether it was erased. -/
def clearSector (sector : UInt32) : SessionM δ Bool := do
  match ← blankCheck sector sector with
  | .blank =>
    notify (.sectorBlank sector)
    return false
  | .used offset content =>
    notify (.sectorUsed sector content offset)
    prepareForWrite sector sector
    eraseSectors sector sector
    return true

/-- Clears `left` sectors from `sector` on, and counts those that had to be erased. -/
def clearSectors (progress : Bool) (sector : UInt32) : (left : Nat) → SessionM δ Nat
  | 0 => return 0
  | left + 1 => do
    let erased ← clearSector sector
    report progress (.update (sector.toNat + 1))
    return erased.toNat + (← clearSectors progress (sector + 1) left)

/-- Erases the flash of a part, sector by sector. -/
def eraseFlash (part : Part) (progress : Bool) : SessionM δ Unit := do
  unlock
  report progress (.start part.flashBase part.flashSectors.toNat)
  let erased ← clearSectors progress 0 part.flashSectors.toNat
  report progress .finish
  notify (.erased erased part.flashSectors)

/-! ## Writing -/

/-- Writes block number `index` of a plan with blocks of `blockSize` bytes. -/
def programBlock (part : Part) (blockSize : UInt32) (index : Nat) (block : Bytes) :
    SessionM δ Unit := do
  let offset := index.toUInt32 * blockSize
  let sector := part.sectorOf offset
  notify (.writingBlock index sector)
  prepareForWrite sector sector
  writeToRam part.ramBufferAddress block part.encoding
  copyRamToFlash (part.flashBase + offset) part.ramBufferAddress blockSize

/-- Writes blocks, the first of which has the number `index`. -/
def programBlocks (part : Part) (blockSize : UInt32) (progress : Bool) (index : Nat) :
    List Bytes → SessionM δ Unit
  | [] => return ()
  | block :: rest => do
    programBlock part blockSize index block
    report progress (.update (index + 1))
    programBlocks part blockSize progress (index + 1) rest

/-- Writes the blocks of a plan to the flash, which has to be erased. -/
def programFlash (part : Part) (plan : Plan) (progress : Bool) : SessionM δ Unit := do
  notify (.writingBlocks plan.blocks.length plan.blockSize)
  report progress (.start part.flashBase plan.blocks.length)
  programBlocks part plan.blockSize progress 0 plan.blocks
  report progress .finish

/-! ## Reading -/

/-- The first bytes of the flash, over which the bootloader maps vectors of its own, so
    that they do not read back as they were written. -/
def remappedLength : Nat := 0x200

/-- Compares what the flash holds with what was written, from the remapped vectors on. -/
def verifyFlash (part : Part) (data : Bytes) (progress : Bool) : SessionM δ Unit := do
  if data.length ≤ remappedLength then notify .nothingToVerify
  else
    let expected := data.drop remappedLength
    let actual ← readMemory (part.flashBase + remappedLength.toUInt32) expected.length.toUInt32
      part.encoding progress
    match Bytes.firstDifference expected actual with
    | some offset => throw (.verification (remappedLength + offset))
    | none =>
      if actual.length ≠ expected.length then
        throw (.verification (remappedLength + actual.length))
      notify .verified

/-- Reads the whole flash of a part. -/
def readFlash (part : Part) (progress : Bool) : SessionM δ Bytes := do
  let data ← readMemory part.flashBase part.flashSize part.encoding progress
  if data.length ≠ part.flashSize.toNat then
    throw (.shortRead part.flashSize.toNat data.length)
  return data

/-! ## Starting -/

/-- Starts the program in flash through its reset vector; the address it starts at, and its
    mode. -/
def execute (part : Part) : SessionM δ (UInt32 × ExecutionMode) := do
  let vector ← readMemory part.resetVectorAddress 4 part.encoding false
  if vector.length ≠ 4 then throw (.shortRead 4 vector.length)
  let (mode, address) := ExecutionMode.ofEntry (vector.wordAt 0)
  if address < lowestEntry then throw (.jumpAddress address)
  unlock
  go address mode
  notify (.started address mode)
  return (address, mode)

end SerialIsp.Session
