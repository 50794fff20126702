import SerialIsp.Failure

/-!
# Transports

A transport is a byte channel to the device: it takes bytes, hands out bytes that arrive
within a time limit, and can drop what has arrived. Here it is a state machine. Each call
gives its outcome and the channel's next state, so a transport is free to answer anything at
any time, depending on everything that went before.

Two things are asked of it. A read hands out no more than was asked for. And between two
writes only finitely many bytes can still arrive: `pending` bounds them, and every byte
handed out lowers the bound. A device that never falls silent is met by devices that fall
silent later and later, each with its own bound.
-/

namespace SerialIsp

/-- Byte channels with states in `δ`. -/
class Transport (δ : Type) where
  /-- Offers bytes; the outcome counts how many were taken. -/
  write : δ → Bytes → Except PortFault Nat × δ
  /-- Waits until as many bytes as wanted have arrived, for so many milliseconds at most,
      and hands out what has. -/
  read : δ → (wanted timeout : Nat) → Except PortFault Bytes × δ
  /-- Drops what has arrived. -/
  clear : δ → Except PortFault Unit × δ
  /-- A bound on the bytes that can be read before the next write. -/
  pending : δ → Nat
  /-- A read hands out no more than was asked for. -/
  length_read_le : ∀ {d d' : δ} {wanted timeout : Nat} {b : Bytes},
    read d wanted timeout = (.ok b, d') → b.length ≤ wanted
  /-- Every byte handed out lowers the bound. -/
  pending_read_le : ∀ {d d' : δ} {wanted timeout : Nat} {b : Bytes},
    read d wanted timeout = (.ok b, d') → b.length + pending d' ≤ pending d

/-- One call on a transport, with its outcome. -/
inductive Call where
  | write (offered : Bytes) (outcome : Except PortFault Nat)
  | read (wanted timeout : Nat) (outcome : Except PortFault Bytes)
  | clear (outcome : Except PortFault Unit)
  deriving Repr

end SerialIsp
