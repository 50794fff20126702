import SerialIsp.Proofs.Dialogue.Handshake
import SerialIsp.Proofs.Dialogue.Memory

/-!
# Frames of operations

A relation that is respected by the single steps, and by the exchanges of the commands that an
operation sends, is respected by the operation. So each operation comes with the kinds of these
commands, and there is one lemma for each. A frame is respected by every exchange, and so by
every operation (`Frame.asks`). An operation that reports no progress asks less of a relation
(`QuietAsks`).

The handshake sends no command in this sense: its last line switches off the echo, but what it
waits for then is not waited for as for the status of a command.
-/

namespace SerialIsp

open Wire

variable {δ α : Type} [Transport δ]

namespace Session

/-! ## Behind the status

What an operation does when it has the status of its command. -/

def settleBlankCheck : Status → SessionM δ BlankCheck
  | .known .cmdSuccess => return .blank
  | .known .sectorNotBlank => do
    let offset ← replyNumber .blankCheck
    let content ← replyNumber .blankCheck
    return .used offset content
  | status => throw (.refused .blankCheck status)

def settleCompare : Status → SessionM δ (Option UInt32)
  | .known .cmdSuccess => return none
  | .known .compareError => return some (← replyNumber .compare)
  | status => throw (.refused .compare status)

theorem blankCheck_eq (first last : UInt32) :
    (blankCheck first last : SessionM δ BlankCheck) = (do
      ofExcept (checkSectorRange first last)
      settleBlankCheck (← commandStatus (.blankCheck first last))) := rfl

theorem compare_eq (address1 address2 size : UInt32) :
    (compare address1 address2 size : SessionM δ (Option UInt32)) = (do
      ofExcept (checkAlignment .firstAddress address1 4)
      ofExcept (checkAlignment .secondAddress address2 4)
      ofExcept (checkAlignment .byteCount size 4)
      settleCompare (← commandStatus (.compare address1 address2 size))) := rfl

namespace QuietSteps

variable {r : Session δ → Session δ → Prop} (steps : QuietSteps r)

include steps

theorem settleBlankCheck (status : Status) :
    Stays r (Session.settleBlankCheck status : SessionM δ BlankCheck) := by
  unfold Session.settleBlankCheck
  split
  · exact steps.pure _
  · exact steps.bind (steps.replyNumber _) fun _ =>
      steps.bind (steps.replyNumber _) fun _ => steps.pure _
  · exact steps.throw _

theorem settleCompare (status : Status) :
    Stays r (Session.settleCompare status : SessionM δ (Option UInt32)) := by
  unfold Session.settleCompare
  split
  · exact steps.pure _
  · exact steps.bind (steps.replyNumber _) fun _ => steps.pure _
  · exact steps.throw _

theorem readSum : Stays r (Session.readSum : SessionM δ (Option UInt32)) := by
  refine steps.bind (stays_attempt steps.readNumber) fun result => ?_
  split
  · exact steps.pure _
  · exact steps.bind (steps.notify _) fun _ => steps.pure none
  · exact steps.throw _

theorem receiveBlock (block length : Nat) :
    Stays r (Session.receiveBlock block length : SessionM δ (Option Bytes)) := by
  refine steps.bind (stays_during _ (steps.readExact _)) fun encoded =>
    steps.bind steps.readSum fun sum => ?_
  cases decode encoded with
  | ok b => exact steps.pure _
  | error cut => exact steps.bind (steps.notify _) fun _ => steps.pure none

theorem untilArrived {sending : SessionM δ (Option α)} {again : SessionM δ Unit}
    (sent : Stays r sending) (asked : Stays r again) (block resends : Nat) :
    Stays r (Session.untilArrived block sending again resends) := by
  induction resends with
  | zero =>
    rw [Session.untilArrived]
    refine steps.bind sent fun arrived => ?_
    cases arrived with
    | some a => exact steps.pure a
    | none => exact steps.throw _
  | succ left ih =>
    rw [Session.untilArrived]
    refine steps.bind sent fun arrived => ?_
    cases arrived with
    | some a => exact steps.pure a
    | none => exact steps.bind (steps.notify _) fun _ => steps.bind asked fun _ => ih

theorem readBlock (block length : Nat) :
    Stays r (Session.readBlock block length : SessionM δ Bytes) := by
  have arrived := steps.untilArrived (steps.receiveBlock block length)
    (steps.writeBytes blockWanted) block maxResends
  exact steps.bind arrived fun b => steps.bind (steps.writeBytes _) fun _ => steps.pure b

theorem deliver (data : Bytes) (encoding : Encoding) :
    Stays r (Session.deliver data encoding : SessionM δ Unit) := by
  have sent (block : Nat) (frame : Bytes) :
      Stays r (Session.sendFrame block frame : SessionM δ (Option Unit)) :=
    steps.bind (steps.writeBytes _) fun _ =>
      steps.bind (stays_during _ steps.readLine) fun reply =>
        .ite (fun _ => steps.pure _) fun _ =>
          steps.bind (steps.notify _) fun _ => steps.pure none
  have blocks (block : Nat) (bs : List Bytes) :
      Stays r (Session.writeBlocks block bs : SessionM δ Unit) := by
    induction bs generalizing block with
    | nil => exact steps.pure ()
    | cons b bs ih =>
      have arrived := steps.untilArrived (sent block (blockFrame b)) (steps.pure ()) block
        maxResends
      exact steps.bind arrived fun _ => ih (block + 1)
  cases encoding with
  | raw => exact steps.writeBytes data
  | lines => exact blocks 0 _

end QuietSteps

namespace Steps

variable {r : Session δ → Session δ → Prop} (steps : Steps r)

include steps

theorem readBlocksFrom (progress : Bool) (count block left : Nat) :
    Stays r (Session.readBlocksFrom progress count block left : SessionM δ Bytes) := by
  induction left using Nat.strongRecOn generalizing block with
  | ind left ih =>
    rw [Session.readBlocksFrom]
    split
    · exact steps.pure []
    · next more =>
      refine steps.bind (steps.readBlock _ _) fun b => steps.bind (steps.report _ _) fun _ => ?_
      exact steps.bind (ih _ (sub_block_lt more) _) fun _ => steps.pure _

theorem fetch (address : UInt32) (count : Nat) (encoding : Encoding) (progress : Bool) :
    Stays r (Session.fetch address count encoding progress : SessionM δ Bytes) := by
  have finish (data : Bytes) : Stays r (do
      Session.report progress .finish
      return data : SessionM δ Bytes) :=
    steps.bind (steps.report _ _) fun _ => steps.pure data
  refine steps.bind (steps.report _ _) fun _ => ?_
  cases encoding with
  | raw => exact steps.bind (stays_during _ (steps.readExact _)) finish
  | lines =>
    refine steps.bind ?_ finish
    exact steps.bind (steps.notify _) fun _ => steps.readBlocksFrom _ _ _ _

end Steps

/-! ## Commands -/

/-- The relation holds along every single step but reports, and along the exchanges of commands
    of these kinds. -/
structure QuietAsks (kinds : List CommandKind) (r : Session δ → Session δ → Prop) : Prop
    extends QuietSteps r where
  asked : ∀ c : Command, c.kind ∈ kinds → Stays r (commandStatus c)

/-- The relation holds along every single step, and along the exchanges of commands of these
    kinds. -/
structure Asks (kinds : List CommandKind) (r : Session δ → Session δ → Prop) : Prop
    extends Steps r, QuietAsks kinds r

theorem Frame.asks {r : Session δ → Session δ → Prop} (frame : Frame r)
    (kinds : List CommandKind) : Asks kinds r := ⟨frame.toSteps, fun c _ => frame.commandStatus c⟩

/-- The kinds of the commands that erase sectors. -/
def erasing : List CommandKind := [.unlock, .blankCheck, .prepareForWrite, .erase]

/-- The kinds of the commands that write blocks. -/
def programming : List CommandKind := [.prepareForWrite, .writeToRam, .copyRamToFlash]

/-- The kinds of the commands that start the program in flash. -/
def starting : List CommandKind := [.readMemory, .unlock, .go]

namespace QuietAsks

variable {kinds : List CommandKind} {r : Session δ → Session δ → Prop} (asks : QuietAsks kinds r)

include asks

theorem command (c : Command) (mem : c.kind ∈ kinds) :
    Stays r (Session.command c : SessionM δ Unit) := asks.toQuietSteps.command (asks.asked c mem)

theorem query (c : Command) (mem : c.kind ∈ kinds) :
    Stays r (Session.query c : SessionM δ (List UInt32)) := asks.toQuietSteps.query (asks.asked c mem)

theorem readPartId (mem : .readPartId ∈ kinds) :
    Stays r (Session.readPartId : SessionM δ UInt32) :=
  asks.toQuietSteps.readPartId (asks.asked _ mem)

theorem readUid (mem : .readUid ∈ kinds) : Stays r (Session.readUid : SessionM δ Uid) :=
  asks.bind (asks.query _ mem) fun _ => asks.pure _

theorem readBootVersion (mem : .readBootVersion ∈ kinds) :
    Stays r (Session.readBootVersion : SessionM δ BootVersion) :=
  asks.bind (asks.query _ mem) fun _ => asks.pure _

theorem prepareForWrite (mem : .prepareForWrite ∈ kinds) (first last : UInt32) :
    Stays r (Session.prepareForWrite first last : SessionM δ Unit) :=
  asks.bind (asks.ofExcept _) fun _ => asks.command _ mem

theorem eraseSectors (mem : .erase ∈ kinds) (first last : UInt32) :
    Stays r (Session.eraseSectors first last : SessionM δ Unit) :=
  asks.bind (asks.ofExcept _) fun _ => asks.command _ mem

theorem blankCheck (mem : .blankCheck ∈ kinds) (first last : UInt32) :
    Stays r (Session.blankCheck first last : SessionM δ BlankCheck) :=
  asks.bind (asks.ofExcept _) fun _ => asks.bind (asks.asked _ mem) asks.settleBlankCheck

theorem copyRamToFlash (mem : .copyRamToFlash ∈ kinds) (flashAddress ramAddress size : UInt32) :
    Stays r (Session.copyRamToFlash flashAddress ramAddress size : SessionM δ Unit) :=
  asks.bind (asks.ofExcept _) fun _ => asks.command _ mem

theorem compare (mem : .compare ∈ kinds) (address1 address2 size : UInt32) :
    Stays r (Session.compare address1 address2 size : SessionM δ (Option UInt32)) :=
  asks.bind (asks.ofExcept _) fun _ => asks.bind (asks.ofExcept _) fun _ =>
    asks.bind (asks.ofExcept _) fun _ => asks.bind (asks.asked _ mem) asks.settleCompare

theorem go (mem : .go ∈ kinds) (address : UInt32) (mode : ExecutionMode) :
    Stays r (Session.go address mode : SessionM δ Unit) :=
  .ite (fun _ => asks.bind (asks.throw _) fun _ => asks.command _ mem)
    fun _ => asks.command _ mem

theorem writeToRam (mem : .writeToRam ∈ kinds) (address : UInt32) (data : Bytes)
    (encoding : Encoding) :
    Stays r (Session.writeToRam address data encoding : SessionM δ Unit) :=
  asks.bind (asks.ofExcept _) fun _ => asks.bind (asks.ofExcept _) fun _ =>
    asks.bind (asks.command _ mem) fun _ => asks.deliver data encoding

/-! ## Devices -/

theorem probe (mem : .readPartId ∈ kinds)
    (cleared : Stays r (clearInput : SessionM δ Unit)) :
    Stays r (Session.probe : SessionM δ Unit) := by
  refine asks.bind (asks.notify _) fun _ => asks.bind cleared fun _ => ?_
  refine asks.bind (stays_attempt (asks.readPartId mem)) fun result => ?_
  cases result with
  | ok id => exact cleared
  | error failure => exact asks.bind (asks.notify _) fun _ => cleared

theorem identify (mem : .readPartId ∈ kinds) :
    Stays r (Session.identify : SessionM δ UInt32) := by
  refine asks.bind (stays_attempt (asks.readPartId mem)) fun result => ?_
  split
  · exact asks.pure _
  · exact asks.throw _
  · exact asks.throw _

theorem connectBy (mem : .readPartId ∈ kinds) (entered : ∀ s phase, r s { s with phase := phase })
    (remembered : ∀ s crystal, r s { s with crystal := some crystal })
    (cleared : Stays r (clearInput : SessionM δ Unit)) (read : Text.LiteralReader)
    (crystal : UInt32) (source : Part.Source) (fs : Files) :
    Stays r (Session.connectBy read crystal source fs : SessionM δ Part) := by
  have synchronized := asks.synchronize entered remembered crystal true
  have described (id : UInt64) : Stays r (describeBy read source fs id : SessionM δ Part) :=
    asks.bind (asks.ofExcept _) fun part => asks.bind (asks.notify _) fun _ =>
      asks.bind (asks.ofExcept _) fun _ => asks.pure part
  have asked : Stays r (do
      let id ← Session.identify
      assumeSynchronized
      let part ← describeBy read source fs id.toUInt64
      notify (.connected part.name id)
      return part : SessionM δ Part) :=
    asks.bind (asks.identify mem) fun id => asks.bind (fun s => entered s _) fun _ =>
      asks.bind (described _) fun part => asks.bind (asks.notify _) fun _ => asks.pure part
  refine asks.bind (stays_attempt synchronized) fun result => ?_
  cases result with
  | ok _ => exact asked
  | error failure => exact asks.bind (asks.probe mem cleared) fun _ => asked

/-! ## The flash -/

theorem clearSector (blank : .blankCheck ∈ kinds) (prepare : .prepareForWrite ∈ kinds)
    (erase : .erase ∈ kinds) (sector : UInt32) :
    Stays r (Session.clearSector sector : SessionM δ Bool) := by
  refine asks.bind (asks.blankCheck blank _ _) fun found => ?_
  cases found with
  | blank => exact asks.bind (asks.notify _) fun _ => asks.pure false
  | used offset content =>
    exact asks.bind (asks.notify _) fun _ =>
      asks.bind (asks.prepareForWrite prepare _ _) fun _ =>
        asks.bind (asks.eraseSectors erase _ _) fun _ => asks.pure true

theorem programBlock (prepare : .prepareForWrite ∈ kinds) (write : .writeToRam ∈ kinds)
    (copy : .copyRamToFlash ∈ kinds) (part : Part) (blockSize : UInt32) (index : Nat)
    (block : Bytes) :
    Stays r (Session.programBlock part blockSize index block : SessionM δ Unit) :=
  asks.bind (asks.notify _) fun _ =>
    asks.bind (asks.prepareForWrite prepare _ _) fun _ =>
      asks.bind (asks.writeToRam write _ _ _) fun _ => asks.copyRamToFlash copy _ _ _

end QuietAsks

namespace Asks

variable {kinds : List CommandKind} {r : Session δ → Session δ → Prop} (asks : Asks kinds r)

include asks

theorem sub {kinds' : List CommandKind} (fewer : kinds' ⊆ kinds) : Asks kinds' r :=
  ⟨asks.toSteps, fun c mem => asks.asked c (fewer mem)⟩

theorem readMemory (mem : .readMemory ∈ kinds) (address count : UInt32) (encoding : Encoding)
    (progress : Bool) :
    Stays r (Session.readMemory address count encoding progress : SessionM δ Bytes) :=
  asks.bind (asks.ofExcept _) fun _ => asks.bind (asks.ofExcept _) fun _ =>
    asks.bind (asks.command _ mem) fun _ => asks.fetch address count.toNat encoding progress

theorem readFlash (mem : .readMemory ∈ kinds) (part : Part) (progress : Bool) :
    Stays r (Session.readFlash part progress : SessionM δ Bytes) :=
  asks.bind (asks.readMemory mem _ _ _ _) fun data =>
    .ite (fun _ => asks.bind (asks.throw _) fun _ => asks.pure data) fun _ => asks.pure data

end Asks

theorem Asks.deviceInfo {r : Session δ → Session δ → Prop}
    (asks : Asks [.readPartId, .readUid, .readBootVersion] r) (part : Part) :
    Stays r (Session.deviceInfo part : SessionM δ DeviceInfo) :=
  asks.bind (asks.readPartId (by decide)) fun _ => asks.bind (asks.readUid (by decide)) fun _ =>
    asks.bind (asks.readBootVersion (by decide)) fun _ => asks.pure _

theorem Asks.eraseFlash {r : Session δ → Session δ → Prop} (asks : Asks erasing r) (part : Part)
    (progress : Bool) : Stays r (Session.eraseFlash part progress : SessionM δ Unit) := by
  have all (sector : UInt32) (left : Nat) :
      Stays r (clearSectors progress sector left : SessionM δ Nat) := by
    induction left generalizing sector with
    | zero => exact asks.pure 0
    | succ left ih =>
      have cleared := asks.clearSector (by decide) (by decide) (by decide) sector
      exact asks.bind cleared fun _ => asks.bind (asks.report _ _) fun _ =>
        asks.bind (ih _) fun _ => asks.pure _
  refine asks.bind (asks.command .unlock (by decide)) fun _ =>
    asks.bind (asks.report _ _) fun _ => asks.bind (all _ _) fun _ => ?_
  exact asks.bind (asks.report _ _) fun _ => asks.notify _

theorem Asks.programFlash {r : Session δ → Session δ → Prop} (asks : Asks programming r)
    (part : Part) (plan : Plan) (progress : Bool) :
    Stays r (Session.programFlash part plan progress : SessionM δ Unit) := by
  have all (index : Nat) (blocks : List Bytes) :
      Stays r (programBlocks part plan.blockSize progress index blocks : SessionM δ Unit) := by
    induction blocks generalizing index with
    | nil => exact asks.pure ()
    | cons block blocks ih =>
      have written := asks.programBlock (by decide) (by decide) (by decide) part plan.blockSize
        index block
      exact asks.bind written fun _ => asks.bind (asks.report _ _) fun _ => ih _
  exact asks.bind (asks.notify _) fun _ => asks.bind (asks.report _ _) fun _ =>
    asks.bind (all _ _) fun _ => asks.report _ _

theorem Asks.verifyFlash {r : Session δ → Session δ → Prop} (asks : Asks [.readMemory] r)
    (part : Part) (data : Bytes) (progress : Bool) :
    Stays r (Session.verifyFlash part data progress : SessionM δ Unit) := by
  refine .ite (fun _ => asks.notify _) fun _ => ?_
  refine asks.bind (asks.readMemory (by decide) _ _ _ _) fun actual => ?_
  split
  · exact asks.throw _
  · exact .ite (fun _ => asks.bind (asks.throw _) fun _ => asks.notify _) fun _ => asks.notify _

theorem Asks.execute {r : Session δ → Session δ → Prop} (asks : Asks starting r) (part : Part) :
    Stays r (Session.execute part : SessionM δ (UInt32 × ExecutionMode)) := by
  refine asks.bind (asks.readMemory (by decide) _ _ _ _) fun vector => ?_
  -- what is done with an entry, whatever its mode
  have entered (mode : ExecutionMode) (address : UInt32) : Stays r (do
      unlock
      Session.go address mode
      notify (.started address mode)
      return (address, mode) : SessionM δ (UInt32 × ExecutionMode)) :=
    asks.bind (asks.command .unlock (by decide)) fun _ =>
      asks.bind (asks.go (by decide) _ _) fun _ =>
        asks.bind (asks.notify _) fun _ => asks.pure _
  have checked (mode : ExecutionMode) (address : UInt32) :=
    Stays.ite (c := address < lowestEntry)
      (fun _ => asks.bind (asks.throw (.jumpAddress address)) fun _ : Unit => entered mode address)
      fun _ => entered mode address
  exact .ite (fun _ => asks.bind (asks.throw _) fun _ => checked _ _) fun _ => checked _ _

omit [Transport δ] in
theorem stays_whileFlashing {r : Session δ → Session δ → Prop} {action : SessionM δ α}
    (h : Stays r action) : Stays r (whileFlashing action) := by
  intro s
  rw [whileFlashing]
  rcases run : action s with ⟨failure | a, s'⟩
  · exact h.of_run run
  · exact h.of_run run

end Session

end SerialIsp
