import SerialIsp.Session.Reading
import SerialIsp.Wire.Command

/-!
# The handshake

A bootloader fresh from reset measures the baud rate on a question mark and answers
`Synchronized`. That line is sent back to it, then the crystal frequency in kHz, and each is
echoed and answered by `OK`. Last, the echo is switched off; its status makes no difference.

The phase of the session advances with the exchange, so where the handshake fails the phase
tells how far it came.
-/

namespace SerialIsp.Session

variable {δ : Type} [Transport δ]

/-- What wakes the bootloader up. -/
def syncRequest : Bytes := Bytes.ascii "?"

/-- The line by which both sides agree. -/
def syncReply : Bytes := Bytes.ascii "Synchronized\r\n"

/-- The crystal frequency as a line, in kHz. -/
def crystalLine (crystal : UInt32) : Bytes := Wire.number crystal.toNat ++ [Bytes.cr, Bytes.lf]

/-- Fails because the exchange went off its script. -/
def failHandshake {α : Type} : SessionM δ α := do failLink (.handshake (← get).phase)

/-- Reads the line by which the device agrees. -/
def expectOk : SessionM δ Unit := do
  let line ← readLine
  if line ≠ okReply then
    notify (.unexpectedLine line)
    failHandshake

/-- The exchange itself. -/
def handshake (crystal : UInt32) : SessionM δ Unit := do
  writeBytes syncRequest
  enter .syncSent
  if (← readExact syncReply.length) ≠ syncReply then failHandshake
  writeBytes syncReply
  enter .syncAcked
  drainLine
  expectOk
  writeBytes (crystalLine crystal)
  drainLine
  expectOk
  enter .crystalAcked
  modify fun s => { s with crystal := some crystal }
  -- the echo of this command is the last one the device sends
  writeBytes (Wire.Command.setEcho false).line
  drainLine
  notify (.echoDisabled (← readStatus))
  enter .echoOff
  enter .ready

/-- Runs the handshake from the start. A `quiet` failure is told as a detail only, as when
    a device is probed that may be synchronized already. -/
def synchronize (crystal : UInt32) (quiet : Bool) : SessionM δ Unit := do
  modify fun s => { s with phase := .unsynced, heldBack := none }
  match ← attempt (handshake crystal) with
  | .ok () => notify (.synchronized crystal)
  | .error failure =>
    let reached := (← get).phase
    enter .syncFailed
    notify (if quiet then .syncFailedQuietly reached failure else .syncFailed reached)
    throw failure

end SerialIsp.Session
