import SerialIsp.Notice
import SerialIsp.Session.Transport

/-!
# Sessions

A session owns a transport and what is known about the far end: how far the handshake has
come, the crystal frequency it accepted, and a byte that was read but belongs to the next
reply. It also keeps a journal of every call on the transport, every progress report and
every notice, in order.

Operations are actions of `SessionM`: they read and change the session and may fail. What a
failing action changed stays changed.
-/

namespace SerialIsp

/-- What the user of an operation is told about its progress. -/
inductive Progress where
  | start (address : UInt32) (total : Nat)
  | update (current : Nat)
  | finish
  deriving DecidableEq, Repr

/-- Everything that was done, in order. -/
structure Journal where
  calls : Array Call := #[]
  progress : Array Progress := #[]
  notices : Array Notice := #[]
  deriving Repr, Inhabited

namespace Session

/-- What is fixed for the lifetime of a session. -/
structure Settings where
  /-- Tell every status and every byte that crosses the transport. -/
  trace : Bool := false
  /-- Milliseconds to wait for a reply. -/
  timeout : Nat := 500
  deriving DecidableEq, Repr, Inhabited

end Session

/-- A session over a transport with states in `δ`. -/
structure Session (δ : Type) where
  device : δ
  settings : Session.Settings
  phase : Session.Phase := .unsynced
  /-- The read timeout in force, in milliseconds. -/
  timeout : Nat := settings.timeout
  /-- The crystal frequency the device accepted, in kHz. -/
  crystal : Option UInt32 := none
  /-- A byte read past a line end, which is the first of the next reply. -/
  heldBack : Option UInt8 := none
  journal : Journal := {}

/-- Actions on a session. -/
abbrev SessionM (δ : Type) (α : Type) : Type := ExceptT Failure (StateM (Session δ)) α

namespace Session

variable {δ α β : Type}

/-! ## What actions do

An action is a function on sessions. These lemmas say what the pieces of one do to a
session, so that no proof has to look into how actions are put together. -/

@[simp] theorem pure_apply (a : α) (s : Session δ) : (pure a : SessionM δ α) s = (.ok a, s) := rfl

@[simp] theorem throw_apply (failure : Failure) (s : Session δ) :
    (throw failure : SessionM δ α) s = (.error failure, s) := rfl

@[simp] theorem get_apply (s : Session δ) : (get : SessionM δ (Session δ)) s = (.ok s, s) := rfl

@[simp] theorem modify_apply (f : Session δ → Session δ) (s : Session δ) :
    (modify f : SessionM δ Unit) s = (.ok (), f s) := rfl

/-- A sequence goes on in the session that its first part leaves, unless that part fails. -/
@[simp] theorem bind_apply (action : SessionM δ α) (next : α → SessionM δ β) (s : Session δ) :
    (action >>= next) s =
      match action s with
      | (.ok a, s') => next a s'
      | (.error failure, s') => (.error failure, s') := by
  rcases h : action s with ⟨_ | a, s'⟩
  all_goals
    show ExceptT.bindCont next (action s).1 (action s).2 = _
    rw [h]
    rfl

/-- A new session on a transport. -/
def start (device : δ) (settings : Settings) : Session δ := { device, settings }

/-- A bound on the bytes a session can still read before it writes. -/
def pending [Transport δ] (s : Session δ) : Nat :=
  s.heldBack.toList.length + Transport.pending s.device

/-- Tells a notice. -/
def notify (notice : Notice) : SessionM δ Unit :=
  modify fun s => { s with journal.notices := s.journal.notices.push notice }

/-- Tells a notice when tracing is on. -/
def traceNotice (notice : Notice) : SessionM δ Unit := do
  if (← get).settings.trace then notify notice

/-- Reports progress when it is wanted. -/
def report (wanted : Bool) (progress : Progress) : SessionM δ Unit := do
  if wanted then modify fun s => { s with journal.progress := s.journal.progress.push progress }

/-- Fails with a fault of the line. -/
def failLink (fault : LinkFault) : SessionM δ α := throw (.connecting fault)

/-- Turns the outcome of a call on the transport into that of an action. -/
def ofOutcome : Except PortFault α → SessionM δ α
  | .ok a => pure a
  | .error fault => failLink (.ofPort fault)

/-- Turns a plain result into that of an action. -/
def ofExcept : Except Failure α → SessionM δ α
  | .ok a => pure a
  | .error failure => throw failure

/-- Moves the session to a phase. -/
def enter (phase : Phase) : SessionM δ Unit := modify fun s => { s with phase := phase }

/-- Treats the device as synchronized by an earlier session. -/
def assumeSynchronized : SessionM δ Unit := enter .ready

/-- Runs an action with a read timeout of its own, whether it succeeds or fails. -/
def withTimeout (timeout : Nat) (action : SessionM δ α) : SessionM δ α := fun s =>
  let (result, s') := action { s with timeout := timeout }
  (result, { s' with timeout := s.timeout })

/-- Names the command in the timeouts of an action. -/
def during (command : Wire.CommandKind) (action : SessionM δ α) : SessionM δ α := fun s =>
  match action s with
  | (.ok a, s') => (.ok a, s')
  | (.error failure, s') => (.error (failure.during command), s')

/-- An action's result as a value, so that its failure ends nothing. -/
def attempt (action : SessionM δ α) : SessionM δ (Except Failure α) := fun s =>
  let (result, s') := action s
  (.ok result, s')

variable [Transport δ]

/-- One write call. -/
def callWrite (b : Bytes) : SessionM δ (Except PortFault Nat) := fun s =>
  let (outcome, device) := Transport.write s.device b
  (.ok outcome, { s with device, journal.calls := s.journal.calls.push (.write b outcome) })

/-- One read call, with the timeout in force. -/
def callRead (wanted : Nat) : SessionM δ (Except PortFault Bytes) := fun s =>
  let (outcome, device) := Transport.read s.device wanted s.timeout
  (.ok outcome,
    { s with device, journal.calls := s.journal.calls.push (.read wanted s.timeout outcome) })

/-- One clear call. -/
def callClear : SessionM δ (Except PortFault Unit) := fun s =>
  let (outcome, device) := Transport.clear s.device
  (.ok outcome, { s with device, journal.calls := s.journal.calls.push (.clear outcome) })

/-- Writes all of `b`, in one call. -/
def writeBytes (b : Bytes) : SessionM δ Unit := do
  traceNotice (.sending b)
  let written ← ofOutcome (← callWrite b)
  if written ≠ b.length then failLink (.shortWrite b.length written)

/-- Drops pending input, on the transport and held back here. -/
def clearInput : SessionM δ Unit := do
  modify fun s => { s with heldBack := none }
  ofOutcome (← callClear)

end Session
end SerialIsp
