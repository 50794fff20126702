import SerialIsp.Programmer.Flash
import SerialIsp.Programmer.Identify

/-!
# Programmers

A programmer is a session with an identified device. It keeps the stage its last operation
on the flash reached, which ends as `done` or `failed`; operations that only read do not
touch the stage.
-/

namespace SerialIsp

/-- The stage of an operation on the flash. -/
inductive Stage where
  | idle
  | validating
  | erasing
  | programming
  | verifying
  | done
  | failed
  deriving DecidableEq, Repr, Inhabited

/-- The stage's name in messages. -/
def Stage.name : Stage → String
  | .idle => "idle"
  | .validating => "validating"
  | .erasing => "erasing"
  | .programming => "programming"
  | .verifying => "verifying"
  | .done => "done"
  | .failed => "failed"

/-- A session with a device that is known to be `part`. -/
structure Programmer (δ : Type) where
  session : Session δ
  part : Part
  stage : Stage := .idle

/-- Actions of a programmer. -/
abbrev ProgrammerM (δ : Type) (α : Type) : Type := ExceptT Failure (StateM (Programmer δ)) α

/-- Somewhere to put the content of a flash. -/
structure Sink where
  /-- How many bytes fit; none is no limit. -/
  room : Option Nat := none
  /-- Whether what was put is lost in the end. -/
  flushFails : Bool := false
  content : Bytes := []
  deriving Repr, Inhabited

/-- Puts bytes into a sink, as many as fit. -/
def Sink.put (sink : Sink) (b : Bytes) : Except FileFault Unit × Sink :=
  match sink.room with
  | some room =>
    if room < b.length then
      (.error (.other "sink full"), { sink with content := b.take room })
    else finish
  | none => finish
where
  /-- All bytes fit. -/
  finish : Except FileFault Unit × Sink :=
    let sink := { sink with content := b }
    if sink.flushFails then (.error (.other "flush failed"), sink) else (.ok (), sink)

namespace Programmer

variable {δ α : Type}

/-- Runs an action on the session. -/
def onSession (action : SessionM δ α) : ProgrammerM δ α := fun p =>
  let (result, session) := action p.session
  (result, { p with session })

/-- Moves to a stage. -/
def enterStage (stage : Stage) : ProgrammerM δ Unit := modify fun p => { p with stage }

/-- Runs an operation on the flash, which opens with the given stage, and ends it as done or
    failed. -/
def operation (first : Stage) (action : ProgrammerM δ α) : ProgrammerM δ α := do
  enterStage first
  try
    let a ← action
    enterStage .done
    return a
  catch failure =>
    onSession (Session.notify (.failedWhile (← get).stage.name))
    enterStage .failed
    throw failure

variable [Transport δ]

/-- What the device says about itself. -/
def deviceInfo : ProgrammerM δ DeviceInfo := do onSession (Session.deviceInfo (← get).part)

/-- The content of the whole flash. -/
def readFlash (progress : Bool) : ProgrammerM δ Bytes := do
  onSession (Session.readFlash (← get).part progress)

/-- Puts the content of the whole flash into a sink. -/
def dump (sink : Sink) (progress : Bool) : StateM (Programmer δ) (Except Failure Unit × Sink) :=
  fun p =>
    match readFlash progress p with
    | (.error failure, p') => ((.error failure, sink), p')
    | (.ok data, p') =>
      match sink.put data with
      | (.error fault, sink) => ((.error (.unwritableOutput fault), sink), p')
      | (.ok (), sink) =>
        let (result, p'') := onSession (Session.notify (.dumped data.length)) p'
        ((result, sink), p'')

/-- Erases every sector that is not blank. -/
def erase (progress : Bool) : ProgrammerM δ Unit :=
  operation .erasing do onSession (Session.eraseFlash (← get).part progress)

/-- Programs an image to the start of the flash, and reads it back where `verify` is set.
    Everything that speaks against it on this side is found before the device is touched. -/
def flash (image : Image) (mode : UserCode) (verify progress : Bool) : ProgrammerM δ Unit :=
  operation .validating do
    let part := (← get).part
    onSession ((image.sumNotices mode).forM Session.notify)
    let plan ← onSession (Session.ofExcept (Plan.make part image mode))
    enterStage .erasing
    onSession (Session.eraseFlash part progress)
    enterStage .programming
    onSession (Session.whileFlashing (Session.programFlash part plan progress))
    if verify then
      enterStage .verifying
      onSession (Session.verifyFlash part plan.data progress)

/-- Starts the program in flash. -/
def execute : ProgrammerM δ (UInt32 × Wire.ExecutionMode) := do
  onSession (Session.execute (← get).part)

end Programmer
end SerialIsp
