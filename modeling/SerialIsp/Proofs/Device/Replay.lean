import SerialIsp.Proofs.Device.Memory
import SerialIsp.Proofs.Schedule
import SerialIsp.Proofs.Wire.Orders

/-!
# Replaying a programming run

What a device did, told from what was written to it and what it answered. The replay knows
nothing of the programmer: it reads each write as the bootloader would, as a command line or
as the next part of an announced transfer, and takes the answer from the bytes that came back.
A command has its effect when it was answered with success, and a frame when it was answered
with `OK`.

The answers of a real device are true only in as much as it is honest. One answer matters: that
a sector is blank. A replay is `truthful` when every sector was blank that was said to be.
-/

namespace SerialIsp

open Wire

/-- An announced transfer to RAM: where the next byte goes, and how many are still to come. -/
structure Transfer where
  address : Nat
  left : Nat
  deriving DecidableEq, Repr

/-- A device: its memory, and the transfer that is going on. -/
structure Device where
  memory : Memory
  incoming : Option Transfer := none

namespace Device

/-- Stores the next bytes of a transfer. -/
def accept (d : Device) (transfer : Transfer) (b : Bytes) : Device where
  memory := d.memory.store transfer.address b
  incoming :=
    if transfer.left ≤ b.length then none
    else some ⟨transfer.address + b.length, transfer.left - b.length⟩

/-- Carries out a command that was answered with success. -/
def obey (part : Part) (d : Device) : Command → Device
  | .erase first last => { d with memory := d.memory.erase part first.toNat last.toNat }
  | .writeToRam address size => { d with incoming := some ⟨address.toNat, size.toNat⟩ }
  | .copyRamToFlash target source size =>
    { d with memory := d.memory.copy target.toNat source.toNat size.toNat }
  | _ => d

/-- The answer to a command: its status, and what comes behind it. A sector that is not blank
    is followed by two numbers. -/
def answer (c : Command) : Dialogue Status := do
  let status ← Dialogue.status
  if c.kind = .blankCheck ∧ status = .known .sectorNotBlank then
    let _ ← Dialogue.number
    let _ ← Dialogue.number
  return status

/-- The bytes a frame carries, as far as they are expected. -/
def unpack (transfer : Transfer) (frame : Bytes) : Bytes :=
  match decode (frame.take (encodedLength (min transfer.left blockCapacity))) with
  | .ok b => b
  | .error _ => []

/-- What a device does with a write, which it answers with the first of `answers`. -/
def hear (part : Part) : Device × Bytes → Bytes → Device × Bytes
  | (d, answers), message =>
    match d.incoming with
    | some transfer =>
      match part.encoding with
      | .raw => (d.accept transfer message, answers)
      | .lines =>
        match (Dialogue.line answers).close with
        | .done reply rest =>
          (if reply = Session.okReply then d.accept transfer (unpack transfer message) else d, rest)
        | _ => (d, answers)
    | none =>
      match Command.read? message with
      | none => (d, answers)
      | some c =>
        match (answer c answers).close with
        | .done status rest => (if status.isSuccess then d.obey part c else d, rest)
        | _ => (d, answers)

/-- **What a device did** on some writes, with the answers it gave. -/
def replay (part : Part) (d : Device × Bytes) (messages : List Bytes) : Device × Bytes :=
  messages.foldl (hear part) d

/-- Whether an answer that a sector is blank is true. -/
def honest (part : Part) : Device × Bytes → Bytes → Bool
  | (d, answers), message =>
    match d.incoming, Command.read? message with
    | none, some (.blankCheck first last) =>
      match (answer (.blankCheck first last) answers).close with
      | .done status _ => !status.isSuccess || d.memory.isBlank part first.toNat last.toNat
      | _ => true
    | _, _ => true

/-- Whether a device is honest all through a replay. -/
def truthful (part : Part) (d : Device × Bytes) : List Bytes → Bool
  | [] => true
  | message :: rest => honest part d message && truthful part (hear part d message) rest

theorem replay_append (part : Part) (d : Device × Bytes) (xs ys : List Bytes) :
    replay part d (xs ++ ys) = replay part (replay part d xs) ys := List.foldl_append

theorem truthful_append (part : Part) (d : Device × Bytes) (xs ys : List Bytes) :
    truthful part d (xs ++ ys) = (truthful part d xs && truthful part (replay part d xs) ys) := by
  induction xs generalizing d with
  | nil => rfl
  | cons x xs ih =>
    rw [List.cons_append, truthful, truthful, ih, Bool.and_assoc]
    rfl

end Device

/-! ## From dialogues to devices -/

/-- **What a dialogue does to a device** with which it comes to its end. -/
def Leads {α : Type} (part : Part) (p : Dialogue α) (d : Device) (after : α → Device) : Prop :=
  ∀ input said a rest, p input = ⟨said, .done a rest⟩ →
    Device.truthful part (d, input) said = true →
    Device.replay part (d, input) said = (after a, rest)

namespace Leads

variable {α β : Type} {part : Part} {d : Device}

theorem pure (a : α) : Leads part (Pure.pure a) d fun _ => d := by
  intro input said a' rest ended honest
  cases ended
  rfl

/-- A failure is no end that has to be accounted for. -/
theorem fail {after : α → Device} (failure : Failure) :
    Leads part (Dialogue.fail failure : Dialogue α) d after := by
  intro input said a rest ended
  cases ended

theorem bind {p : Dialogue α} {next : α → Dialogue β} {between : α → Device} {after : β → Device}
    (first : Leads part p d between) (second : ∀ a, Leads part (next a) (between a) after) :
    Leads part (p >>= next) d after := by
  intro input said b rest ended honest
  obtain ⟨a, words, mid, words', here, there, rfl⟩ := Dialogue.bind_eq_done ended
  rw [Device.truthful_append, Bool.and_eq_true] at honest
  have replayed := first input words a mid here honest.1
  rw [replayed] at honest
  rw [Device.replay_append, replayed]
  exact second a mid words' b rest there honest.2

end Leads
end SerialIsp
