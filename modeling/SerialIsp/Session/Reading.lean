import SerialIsp.Session.Basic
import SerialIsp.Text.Blank
import SerialIsp.Text.Utf8

/-!
# Reading replies

Replies are lines that end in a line feed, or in a carriage return with or without a line
feed after it. The two cannot be told apart before the next byte is read, so that byte is
held back when it is no line feed, and opens the next reply.

The first read of a reply takes the held-back byte before any from the transport. Lines are
read byte by byte, since more must not be taken than belongs to the line. Skipping a line
ends because every byte read lowers `Session.pending`.
-/

namespace SerialIsp.Session

variable {δ : Type} [Transport δ]

/-- Takes the held-back byte, if there is one. -/
def takeHeldBack : SessionM δ Bytes := fun s =>
  (.ok s.heldBack.toList, { s with heldBack := none })

/-- Reads exactly `n` bytes, in one read call at most; fewer are a timeout. -/
def readExact (n : Nat) : SessionM δ Bytes := do
  if n = 0 then return []
  let held ← takeHeldBack
  let arrived ← if held.length < n then ofOutcome (← callRead (n - held.length)) else pure []
  let b := held ++ arrived
  -- single bytes are told by the line they belong to
  if 1 < n then traceNotice (.received b)
  if b.length < n then
    notify (.cutShort b.length n)
    failLink (.timeout none)
  return b

/-- Reads one byte. -/
def readByte : SessionM δ UInt8 := do
  let b ← readExact 1
  return b.headD 0

/-- Holds a byte back for the next reply. -/
def holdBack (c : UInt8) : SessionM δ Unit := modify fun s => { s with heldBack := some c }

/-- Ends a line after its carriage return: a line feed belongs to the line end, any other
    byte to the next reply. -/
def finishLine : SessionM δ Unit := do
  let c ← readByte
  if c ≠ Bytes.lf then holdBack c

/-- The most bytes a line may have. -/
def lineLimit : Nat := 64

/-- Reads on in a line of which `line` was read already and `room` more bytes are
    allowed. The byte after those makes the reply malformed, unless it ends the line. -/
def readLineFrom (line : Bytes) (room : Nat) : SessionM δ Bytes := do
  let c ← readByte
  if c = Bytes.lf then return line
  else if c = Bytes.cr then
    finishLine
    return line
  else
    match room with
    | 0 => failLink (.malformedReply (Text.Utf8.lossy (line ++ [c])))
    | room + 1 => readLineFrom (line ++ [c]) room

/-- Reads a line, without its end. -/
def readLine : SessionM δ String := do
  let line := Text.Utf8.lossy (← readLineFrom [] lineLimit)
  traceNotice (.receivedLine line)
  return line

/-- The line by which the device agrees. -/
def okReply : String := "OK"

/-- Reads a line that holds one decimal number, with any blanks around it. -/
def readNumber : SessionM δ UInt32 := do
  let line ← readLine
  match Text.readNumber 10 Text.limit32 (Text.trim line.toList) with
  | .ok n => return n.toUInt32
  | .error _ => failLink (.malformedReply line)

/-- What `readByte` does, case by case. -/
theorem readByte_eq (s : Session δ) : readByte s =
    match s.heldBack with
    | some c => (.ok c, { s with heldBack := none })
    | none =>
      let call := fun outcome =>
        { s.journal with calls := s.journal.calls.push (.read 1 s.timeout outcome) }
      match Transport.read s.device 1 s.timeout with
      | (.error fault, device) =>
        (.error (.connecting (.ofPort fault)), { s with device, journal := call (.error fault) })
      | (.ok [], device) =>
        (.error (.connecting (.timeout none)),
          { s with
            device
            journal := { call (.ok []) with notices := s.journal.notices.push (.cutShort 0 1) } })
      | (.ok (c :: rest), device) => (.ok c, { s with device, journal := call (.ok (c :: rest)) }) := by
  cases held : s.heldBack with
  | some c => simp [readByte, readExact, takeHeldBack, held]
  | none =>
    rcases e : Transport.read s.device 1 s.timeout with ⟨_ | _ | ⟨c, rest⟩, device⟩
    all_goals
      simp [readByte, readExact, takeHeldBack, held, e, callRead, ofOutcome, failLink, notify]

/-- Every byte read lowers the bound on those that can still be read. -/
theorem pending_of_readByte {s s' : Session δ} {c : UInt8} (h : readByte s = (.ok c, s')) :
    s'.pending < s.pending := by
  rw [readByte_eq] at h
  cases held : s.heldBack with
  | some d =>
    simp only [held] at h
    obtain ⟨-, rfl⟩ := Prod.mk.inj h
    simp [pending, held]
  | none =>
    simp only [held] at h
    split at h
    · cases h
    · cases h
    · next d rest device e =>
      obtain ⟨-, rfl⟩ := Prod.mk.inj h
      have := Transport.pending_read_le e
      simp only [List.length_cons] at this
      simp only [pending, held, Option.toList_none, List.length_nil]
      omega

/-- Drops everything up to and with the next line end. -/
def drainLine : SessionM δ Unit := fun s =>
  match _h : readByte s with
  | (.error failure, s') => (.error failure, s')
  | (.ok c, s') =>
    if c = Bytes.lf then (.ok (), s')
    else if c = Bytes.cr then finishLine s'
    else drainLine s'
termination_by s => s.pending
decreasing_by exact pending_of_readByte _h

/-- Whether a byte is a decimal digit. -/
def isDigit (c : UInt8) : Bool := 48 ≤ c && c ≤ 57

/-- The length of the shortest status reply. -/
def statusLength : Nat := 3

/-- Reads a status: three bytes, of which the leading digits are the status. Where the
    third is no line end, the line is dropped up to its end. -/
def readStatus : SessionM δ Wire.Status := do
  let reply ← readExact statusLength
  let code := (reply.takeWhile isDigit).map fun c => Char.ofNat c.toNat
  match Text.readNumber 10 Text.limit32 code with
  | .error _ => failLink (.malformedReply (Text.Utf8.lossy reply))
  | .ok n =>
    let last := reply.getLastD 0
    if last = Bytes.lf then pure ()
    else if last = Bytes.cr then finishLine
    else drainLine
    return .ofValue n.toUInt32

end SerialIsp.Session
