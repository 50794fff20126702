import SerialIsp.Session.Commands
import SerialIsp.Part.Basic
import SerialIsp.Wire.Block

/-!
# Memory transfers

Memory contents cross the line raw, or as blocks of printable lines with their byte sums.
The receiver of a block answers whether it took it; a block that did not arrive whole is
sent again, `maxResends` times at most, and then the transfer is given up. A sum that cannot
be read counts as one that differs.
-/

namespace SerialIsp.Session

open Wire

variable {δ : Type} [Transport δ]

/-- Reads the line with a block's byte sum; a garbled one is none. -/
def readSum : SessionM δ (Option UInt32) := do
  match ← attempt readNumber with
  | .ok sum => return some sum
  | .error (.connecting (.malformedReply line)) =>
    notify (.malformedSum line)
    return none
  | .error failure => throw (failure.during .readMemory)

/-- Reads one sending of a block of `length` bytes; one that did not arrive whole is
    none. -/
def receiveBlock (block length : Nat) : SessionM δ (Option Bytes) := do
  let encoded ← during .readMemory (readExact (encodedLength length))
  let sum ← readSum
  match decode encoded with
  | .ok b => return if b.length = length ∧ some (byteSum b) = sum then some b else none
  | .error cut =>
    notify (.undecodableBlock block (.cutLine cut.offset))
    return none

/-- Repeats the sending of a block until it arrives, `resends` times at most. Before each
    repetition, `again` asks for it. -/
def untilArrived {α : Type} (block : Nat) (sending : SessionM δ (Option α))
    (again : SessionM δ Unit) (resends : Nat) : SessionM δ α := do
  match ← sending with
  | some a => return a
  | none =>
    match resends with
    | 0 => throw (.corruptBlock block (maxResends + 1))
    | left + 1 =>
      notify (.resending block (maxResends - left))
      again
      untilArrived block sending again left

/-- Reads a block and takes it. -/
def readBlock (block length : Nat) : SessionM δ Bytes := do
  let b ← untilArrived block (receiveBlock block length) (writeBytes blockWanted) maxResends
  writeBytes blockTaken
  return b

/-- Reads the last `left` of `count` bytes, which start with block number `block`. -/
def readBlocksFrom (progress : Bool) (count block left : Nat) : SessionM δ Bytes := do
  if _h : left = 0 then return []
  else
    let length := min left blockCapacity
    let b ← readBlock block length
    report progress (.update (count - (left - length)))
    return b ++ (← readBlocksFrom progress count (block + 1) (left - length))
termination_by left
decreasing_by
  have : 0 < blockCapacity := by decide
  omega

/-- Reads `count` bytes as blocks. -/
def readBlocks (progress : Bool) (count : Nat) : SessionM δ Bytes := do
  notify (.readingBlocks count (blockCount count))
  readBlocksFrom progress count 0 count

/-- Reads `count` bytes of target memory. -/
def readMemory (address count : UInt32) (encoding : Encoding) (progress : Bool) :
    SessionM δ Bytes := do
  ofExcept (checkAlignment .address address 4)
  ofExcept (checkAlignment .byteCount count 4)
  command (.readMemory address count)
  report progress (.start address count.toNat)
  let data ← match encoding with
    | .raw => during .readMemory (readExact count.toNat)
    | .lines => readBlocks progress count.toNat
  report progress .finish
  return data

/-- Sends a frame once; some value when the device took it. -/
def sendFrame (block : Nat) (frame : Bytes) : SessionM δ (Option Unit) := do
  writeBytes frame
  let reply ← during .writeToRam readLine
  if reply = okReply then return some ()
  notify (.blockAnswered reply block)
  return none

/-- Writes a block. -/
def writeBlock (block : Nat) (b : Bytes) : SessionM δ Unit :=
  untilArrived block (sendFrame block (blockFrame b)) (pure ()) maxResends

/-- Writes blocks, the first of which has the number `block`. -/
def writeBlocks (block : Nat) : List Bytes → SessionM δ Unit
  | [] => return ()
  | b :: rest => do
    writeBlock block b
    writeBlocks (block + 1) rest

/-- Writes data to target RAM. -/
def writeToRam (address : UInt32) (data : Bytes) (encoding : Encoding) : SessionM δ Unit := do
  let size := data.length.toUInt32
  ofExcept (checkAlignment .address address 4)
  ofExcept (checkAlignment .byteCount size 4)
  command (.writeToRam address size)
  match encoding with
  | .raw => writeBytes data
  | .lines => writeBlocks 0 (Bytes.chunks blockCapacity data)

end SerialIsp.Session
