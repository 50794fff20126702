import SerialIsp.Proofs.Dialogue.Commands

/-!
# Memory transfers as dialogues

The block transfers in both directions. Their loops are loops of the dialogue: over the blocks
of the data, and inside one block over its sendings.
-/

namespace SerialIsp

open Wire

variable {δ α : Type}

/-! ## The dialogues

Each has the name of the operation it belongs to. -/

theorem blockCapacity_eq : blockCapacity = 900 := rfl

theorem blockCapacity_pos : 0 < blockCapacity := by decide

/-- A block less is left after a block. -/
theorem sub_block_lt {left : Nat} (more : left ≠ 0) : left - min left blockCapacity < left := by
  have pos := blockCapacity_pos
  omega

namespace Dialogue

/-- A malformed reply counts as none. -/
def orNone (p : Dialogue α) : Dialogue (Option α) := fun input =>
  match (p input).close with
  | .done a rest => ⟨(p input).said, .done (some a) rest⟩
  | .failed (.connecting (.malformedReply _)) rest => ⟨(p input).said, .done none rest⟩
  | .failed failure rest => ⟨(p input).said, .failed failure rest⟩
  | .waiting => ⟨(p input).said, .waiting⟩

/-- The bytes that `lines` carry, if they are as many as expected and this is their sum. -/
def accept (length : Nat) (lines : Bytes) (sum : Option UInt32) : Option Bytes :=
  match decode lines with
  | .ok b => if b.length = length ∧ some (byteSum b) = sum then some b else none
  | .error _ => none

def receiveBlock (length : Nat) : Dialogue (Option Bytes) := do
  let lines ← take (encodedLength length)
  let sum ← orNone number
  return accept length lines sum

/-- Repeats the sending of a block until it arrives, `resends` times at most. -/
def untilArrived (block : Nat) (sending : Dialogue (Option α)) (again : Dialogue Unit)
    (resends : Nat) : Dialogue α := do
  match ← sending with
  | some a => return a
  | none =>
    match resends with
    | 0 => fail (.corruptBlock block (maxResends + 1))
    | left + 1 =>
      again
      untilArrived block sending again left

def readBlock (block length : Nat) : Dialogue Bytes := do
  let b ← untilArrived block (receiveBlock length) (say blockWanted) maxResends
  say blockTaken
  return b

/-- Reads the last `left` bytes, which start with block number `block`. -/
def readBlocksFrom (block left : Nat) : Dialogue Bytes := do
  if _h : left = 0 then return []
  else
    let length := min left blockCapacity
    let b ← readBlock block length
    return b ++ (← readBlocksFrom (block + 1) (left - length))
termination_by left
decreasing_by exact sub_block_lt _h

/-- Reads `count` bytes of target memory. -/
def readMemory (address count : UInt32) (encoding : Encoding) : Dialogue Bytes := do
  ofExcept (checkAlignment .address address 4)
  ofExcept (checkAlignment .byteCount count 4)
  command (.readMemory address count)
  match encoding with
  | .raw => take count.toNat
  | .lines => readBlocksFrom 0 count.toNat

/-- The transfer itself. -/
def transfer (count : Nat) : Encoding → Dialogue Bytes
  | .raw => take count
  | .lines => readBlocksFrom 0 count

def sendFrame (frame : Bytes) : Dialogue (Option Unit) := do
  say frame
  let reply ← line
  return if reply = Session.okReply then some () else none

def writeBlock (block : Nat) (b : Bytes) : Dialogue Unit :=
  untilArrived block (sendFrame (blockFrame b)) (pure ()) maxResends

/-- Writes blocks, the first of which has the number `block`. -/
def writeBlocks (block : Nat) : List Bytes → Dialogue Unit
  | [] => return ()
  | b :: rest => do
    writeBlock block b
    writeBlocks (block + 1) rest

/-- The bytes themselves. -/
def deliver (data : Bytes) : Encoding → Dialogue Unit
  | .raw => say data
  | .lines => writeBlocks 0 (Bytes.chunks blockCapacity data)

def writeToRam (address : UInt32) (data : Bytes) (encoding : Encoding) : Dialogue Unit := do
  ofExcept (checkAlignment .address address 4)
  ofExcept (checkAlignment .byteCount data.length.toUInt32 4)
  command (.writeToRam address data.length.toUInt32)
  match encoding with
  | .raw => say data
  | .lines => writeBlocks 0 (Bytes.chunks blockCapacity data)

end Dialogue

/-! ## Reading -/

namespace Session

variable [Transport δ]

theorem readSum_follows :
    Follows (readSum : SessionM δ (Option UInt32)) (Dialogue.orNone Dialogue.number) := by
  intro s
  have said (input : Bytes) :
      (Dialogue.orNone Dialogue.number input).said = (Dialogue.number input).said := by
    unfold Dialogue.orNone
    split <;> rfl
  have waits (input : Bytes) (e : (Dialogue.number input).close = .waiting) :
      (Dialogue.orNone Dialogue.number input).close = .waiting := by
    unfold Dialogue.orNone
    rw [e]
  have follows := readNumber_follows s
  rcases run : readNumber s with ⟨failure | n, s'⟩
  · by_cases malformed : ∃ line, failure = .connecting (.malformedReply line)
    · -- a garbled line is told, and stands for no number
      obtain ⟨line, rfl⟩ := malformed
      obtain ⟨s'', told, hcalls, hheld⟩ := silent_notify (.malformedSum line) s'
      have whole : readSum s = (.ok none, s'') := by
        simp only [readSum, bind_apply, attempt, run, told, pure_apply]
      refine follows.wrap (by rw [whole, hcalls, run]) (by rw [whole, hheld, run]) said waits
        (fun input rest ending => ?_) fun f result isBreak => ?_
      · rw [run] at ending
        unfold Dialogue.orNone
        rw [whole, ending]
        rfl
      · rw [run] at result
        cases result
        exact isBreak.elim
    · have whole : readSum s = (.error (failure.during .readMemory), s') := by
        simp only [readSum, bind_apply, attempt, run]
        cases failure with
        | connecting fault =>
          cases fault with
          | malformedReply line => exact absurd ⟨line, rfl⟩ malformed
          | _ => rfl
        | _ => rfl
      refine follows.wrap (by rw [whole, run]) (by rw [whole, run]) said waits
        (fun input rest ending => ?_) fun f result isBreak => ?_
      · rw [run] at ending
        rw [whole, Dialogue.listening_number.untimed ending]
        unfold Dialogue.orNone
        split
        · next h => exact absurd (ending.symm.trans h) nofun
        · next line _ h =>
          exact absurd ⟨line, (Close.failed.inj (ending.symm.trans h)).1⟩ malformed
        · next h =>
          obtain ⟨rfl, rfl⟩ := Close.failed.inj (h.symm.trans ending)
          rfl
        · next h => exact absurd (ending.symm.trans h) nofun
      · rw [run] at result
        cases result
        exact ⟨_, by rw [whole], Failure.isBreak_during isBreak _⟩
  · have whole : readSum s = (.ok (some n), s') := by
      simp only [readSum, bind_apply, attempt, run, pure_apply]
    refine follows.wrap (by rw [whole, run]) (by rw [whole, run]) said waits
      (fun input rest ending => ?_) fun f result _ => ?_
    · rw [run] at ending
      unfold Dialogue.orNone
      rw [whole, ending]
      rfl
    · rw [run] at result
      cases result

theorem receiveBlock_follows (block length : Nat) :
    Follows (receiveBlock block length : SessionM δ (Option Bytes))
      (Dialogue.receiveBlock length) := by
  have lines := during_follows (δ := δ) (readExact_follows (encodedLength length))
    (Dialogue.listening_take _).untimed .readMemory
  refine lines.bind fun lines => readSum_follows.bind fun sum => ?_
  unfold Dialogue.accept
  cases decode lines with
  | ok b => exact follows_pure _
  | error cut => exact (silent_notify _).then (follows_pure none)

omit [Transport δ] in
theorem untilArrived_follows {sending : SessionM δ (Option α)} {again : SessionM δ Unit}
    {p : Dialogue (Option α)} {q : Dialogue Unit} (h : Follows sending p) (h' : Follows again q)
    (block resends : Nat) :
    Follows (untilArrived block sending again resends)
      (Dialogue.untilArrived block p q resends) := by
  induction resends with
  | zero =>
    rw [untilArrived, Dialogue.untilArrived]
    refine h.bind fun arrived => ?_
    cases arrived with
    | some a => exact follows_pure a
    | none => exact follows_throw _
  | succ left ih =>
    rw [untilArrived, Dialogue.untilArrived]
    refine h.bind fun arrived => ?_
    cases arrived with
    | some a => exact follows_pure a
    | none => exact (silent_notify _).then (h'.bind fun _ => ih)

theorem readBlock_follows (block length : Nat) :
    Follows (readBlock block length : SessionM δ Bytes) (Dialogue.readBlock block length) :=
  (untilArrived_follows (receiveBlock_follows _ _) (writeBytes_follows _) _ _).bind fun b =>
    (writeBytes_follows _).bind fun _ => follows_pure b

theorem readBlocksFrom_follows (progress : Bool) (count block left : Nat) :
    Follows (readBlocksFrom progress count block left : SessionM δ Bytes)
      (Dialogue.readBlocksFrom block left) := by
  induction left using Nat.strongRecOn generalizing block with
  | ind left ih =>
    rw [readBlocksFrom, Dialogue.readBlocksFrom]
    split
    · exact follows_pure []
    · next more =>
      refine (readBlock_follows _ _).bind fun b => ?_
      refine (silent_report _ _).then ?_
      exact (ih _ (sub_block_lt more) _).bind fun _ => follows_pure _

/-- What is done when the device has taken the command to send its memory. -/
def fetch (address : UInt32) (count : Nat) (encoding : Encoding) (progress : Bool) :
    SessionM δ Bytes := do
  report progress (.start address count)
  let data ← match encoding with
    | .raw => during .readMemory (readExact count)
    | .lines => readBlocks progress count
  report progress .finish
  return data

theorem readMemory_eq (address count : UInt32) (encoding : Encoding) (progress : Bool) :
    (readMemory address count encoding progress : SessionM δ Bytes) = (do
      ofExcept (checkAlignment .address address 4)
      ofExcept (checkAlignment .byteCount count 4)
      command (.readMemory address count)
      fetch address count.toNat encoding progress) := rfl

theorem fetch_follows (address : UInt32) (count : Nat) (encoding : Encoding) (progress : Bool) :
    Follows (fetch address count encoding progress : SessionM δ Bytes)
      (Dialogue.transfer count encoding) := by
  have finish (data : Bytes) :
      Follows (do report progress .finish; return data : SessionM δ Bytes) (pure data) :=
    (silent_report _ _).then (follows_pure data)
  refine (silent_report _ _).then ?_
  cases encoding with
  | raw =>
    dsimp only [Dialogue.transfer]
    rw [← Dialogue.bind_pure (Dialogue.take _)]
    exact (during_follows (readExact_follows _) (Dialogue.listening_take _).untimed _).bind finish
  | lines =>
    dsimp only [Dialogue.transfer]
    rw [← Dialogue.bind_pure (Dialogue.readBlocksFrom _ _)]
    exact ((silent_notify _).then (readBlocksFrom_follows _ _ _ _)).bind finish

theorem readMemory_follows (address count : UInt32) (encoding : Encoding) (progress : Bool) :
    Follows (readMemory address count encoding progress : SessionM δ Bytes)
      (Dialogue.readMemory address count encoding) := by
  rw [readMemory_eq]
  refine (ofExcept_follows _).bind fun _ => (ofExcept_follows _).bind fun _ => ?_
  refine (command_follows _).bind fun _ => ?_
  have follows := fetch_follows (δ := δ) address count.toNat encoding progress
  cases encoding with
  | raw => exact follows
  | lines => exact follows

/-! ## Writing -/

theorem sendFrame_follows (block : Nat) (frame : Bytes) :
    Follows (sendFrame block frame : SessionM δ (Option Unit)) (Dialogue.sendFrame frame) := by
  refine (writeBytes_follows _).bind fun _ => ?_
  refine (during_follows readLine_follows Dialogue.listening_line.untimed _).bind fun reply => ?_
  by_cases ok : reply = okReply
  · simp only [ok, ↓reduceIte]
    exact follows_pure _
  · simp only [ok, ↓reduceIte]
    exact (silent_notify _).then (follows_pure none)

theorem writeBlock_follows (block : Nat) (b : Bytes) :
    Follows (writeBlock block b : SessionM δ Unit) (Dialogue.writeBlock block b) :=
  untilArrived_follows (sendFrame_follows _ _) (follows_pure ()) _ _

theorem writeBlocks_follows (block : Nat) (bs : List Bytes) :
    Follows (writeBlocks block bs : SessionM δ Unit) (Dialogue.writeBlocks block bs) := by
  induction bs generalizing block with
  | nil => exact follows_pure ()
  | cons b rest ih => exact (writeBlock_follows block b).bind fun _ => ih _

/-- What is done when the device has taken the command to receive bytes. -/
def deliver (data : Bytes) : Encoding → SessionM δ Unit
  | .raw => writeBytes data
  | .lines => writeBlocks 0 (Bytes.chunks blockCapacity data)

theorem writeToRam_eq (address : UInt32) (data : Bytes) (encoding : Encoding) :
    (writeToRam address data encoding : SessionM δ Unit) = (do
      ofExcept (checkAlignment .address address 4)
      ofExcept (checkAlignment .byteCount data.length.toUInt32 4)
      command (.writeToRam address data.length.toUInt32)
      deliver data encoding) := rfl

theorem deliver_follows (data : Bytes) (encoding : Encoding) :
    Follows (deliver data encoding : SessionM δ Unit) (Dialogue.deliver data encoding) := by
  cases encoding with
  | raw => exact writeBytes_follows data
  | lines => exact writeBlocks_follows 0 _

theorem writeToRam_follows (address : UInt32) (data : Bytes) (encoding : Encoding) :
    Follows (writeToRam address data encoding : SessionM δ Unit)
      (Dialogue.writeToRam address data encoding) := by
  rw [writeToRam_eq]
  refine (ofExcept_follows _).bind fun _ => (ofExcept_follows _).bind fun _ => ?_
  refine (command_follows _).bind fun _ => ?_
  have follows := deliver_follows (δ := δ) data encoding
  cases encoding with
  | raw => exact follows
  | lines => exact follows

end Session
end SerialIsp
