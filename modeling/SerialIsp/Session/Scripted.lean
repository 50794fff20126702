import SerialIsp.Session.Transport

/-!
# Scripted transports

A transport that plays a script: what waits to be read from the start, what arrives with
each write, and which calls fail or take only part of what is offered. It never waits, so a
read hands out at once what there is. A bootloader is rehearsed with it when none is at
hand.
-/

namespace SerialIsp

/-- A script, and how far it was played. -/
structure Scripted where
  /-- What can be read now. -/
  queue : Bytes := []
  /-- What arrives with the writes to come, one entry for each that succeeds. -/
  replies : List Bytes := []
  /-- How many bytes a write takes, by its number, where it does not take all. -/
  writeLimits : List (Nat × Nat) := []
  /-- Writes that fail, by number. -/
  writeFaults : List (Nat × PortFault) := []
  /-- Reads that fail, by number. -/
  readFaults : List (Nat × PortFault) := []
  /-- How every attempt to drop the input fails. -/
  clearFault : Option PortFault := none
  /-- Whether the input is kept when it should be dropped. -/
  keepsInput : Bool := false
  /-- Writes and reads so far. -/
  writes : Nat := 0
  reads : Nat := 0
  deriving DecidableEq, Repr, Inhabited

namespace Scripted

/-- Takes as much of `b` as the script allows, and puts the next reply up for reading. -/
def write (d : Scripted) (b : Bytes) : Except PortFault Nat × Scripted :=
  let d' := { d with writes := d.writes + 1 }
  match d.writeFaults.lookup d.writes with
  | some fault => (.error fault, d')
  | none =>
    let taken := match d.writeLimits.lookup d.writes with
      | some limit => min limit b.length
      | none => b.length
    (.ok taken, { d' with queue := d.queue ++ d.replies.headD [], replies := d.replies.tail })

/-- Hands out what there is, up to what is wanted. -/
def read (d : Scripted) (wanted _timeout : Nat) : Except PortFault Bytes × Scripted :=
  let d' := { d with reads := d.reads + 1 }
  match d.readFaults.lookup d.reads with
  | some fault => (.error fault, d')
  | none => (.ok (d.queue.take wanted), { d' with queue := d.queue.drop wanted })

/-- Drops what could be read. -/
def clear (d : Scripted) : Except PortFault Unit × Scripted :=
  if d.keepsInput then (.ok (), d)
  else
    match d.clearFault with
    | some fault => (.error fault, d)
    | none => (.ok (), { d with queue := [] })

instance : Transport Scripted where
  write := write
  read := read
  clear := clear
  pending d := d.queue.length
  length_read_le {d d' wanted timeout b} h := by
    unfold read at h
    split at h
    · cases h
    · cases h
      exact List.length_take_le ..
  pending_read_le {d d' wanted timeout b} h := by
    unfold read at h
    split at h
    · cases h
    · cases h
      simp only [List.length_take, List.length_drop]
      omega

end Scripted
end SerialIsp
