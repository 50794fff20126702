import SerialIsp.Proofs.Schedule
import SerialIsp.Proofs.Twins.Programmer

/-!
# Observation

Whether a session traces what crosses the line, whether a failed handshake is told quietly, and
whether reports of progress are wanted: none of it changes what is done. Two runs that differ
in nothing else make the same calls, come to the same results and end in the same state.

It is proved for whatever can be done with sessions and programmers, one operation after the
other, where each may depend on what came of those before. Such a run is a program: a `Talk`
over a session, and a `Job` over a programmer, which may also be replaced, by one for another
part or over a new session. What a program cannot do is look at the settings for tracing.
-/

namespace SerialIsp

open Wire

/-! ## What can be asked of a session -/

/-- The operations of a session, by the type of their values. -/
inductive SessionCall : Type → Type
  | synchronize (crystal : UInt32) (quiet : Bool) : SessionCall Unit
  | assumeSynchronized : SessionCall Unit
  | writeBytes (b : Bytes) : SessionCall Unit
  | readExact (n : Nat) : SessionCall Bytes
  | readLine : SessionCall String
  | drainLine : SessionCall Unit
  | readNumber : SessionCall UInt32
  | clearInput : SessionCall Unit
  | commandStatus (c : Command) : SessionCall Status
  | command (c : Command) : SessionCall Unit
  | unlock : SessionCall Unit
  | readPartId : SessionCall UInt32
  | readUid : SessionCall Uid
  | readBootVersion : SessionCall BootVersion
  | prepareForWrite (first last : UInt32) : SessionCall Unit
  | eraseSectors (first last : UInt32) : SessionCall Unit
  | blankCheck (first last : UInt32) : SessionCall BlankCheck
  | copyRamToFlash (flashAddress ramAddress size : UInt32) : SessionCall Unit
  | compare (address1 address2 size : UInt32) : SessionCall (Option UInt32)
  | go (address : UInt32) (mode : ExecutionMode) : SessionCall Unit
  | readMemory (address count : UInt32) (encoding : Encoding) (progress : Bool) :
      SessionCall Bytes
  | writeToRam (address : UInt32) (data : Bytes) (encoding : Encoding) : SessionCall Unit
  | connect (read : Text.LiteralReader) (crystal : UInt32) (source : Part.Source) (fs : Files) :
      SessionCall Part
  | phase : SessionCall Session.Phase
  | frequency : SessionCall (Option UInt32)
  | patience : SessionCall Nat

namespace SessionCall

def run {α δ : Type} [Transport δ] : SessionCall α → SessionM δ α
  | synchronize crystal quiet => Session.synchronize crystal quiet
  | assumeSynchronized => Session.assumeSynchronized
  | writeBytes b => Session.writeBytes b
  | readExact n => Session.readExact n
  | readLine => Session.readLine
  | drainLine => Session.drainLine
  | readNumber => Session.readNumber
  | clearInput => Session.clearInput
  | commandStatus c => Session.commandStatus c
  | command c => Session.command c
  | unlock => Session.unlock
  | readPartId => Session.readPartId
  | readUid => Session.readUid
  | readBootVersion => Session.readBootVersion
  | prepareForWrite first last => Session.prepareForWrite first last
  | eraseSectors first last => Session.eraseSectors first last
  | blankCheck first last => Session.blankCheck first last
  | copyRamToFlash flashAddress ramAddress size =>
    Session.copyRamToFlash flashAddress ramAddress size
  | compare address1 address2 size => Session.compare address1 address2 size
  | go address mode => Session.go address mode
  | readMemory address count encoding progress =>
    Session.readMemory address count encoding progress
  | writeToRam address data encoding => Session.writeToRam address data encoding
  | connect read crystal source fs => Session.connectBy read crystal source fs
  | phase => do return (← get).phase
  | frequency => do return (← get).crystal
  | patience => do return (← get).settings.timeout

/-- The call without what it says about observation. -/
def unwatched {α : Type} : SessionCall α → SessionCall α
  | synchronize crystal _ => synchronize crystal false
  | readMemory address count encoding _ => readMemory address count encoding false
  | call => call

end SessionCall

/-- What is done with a session, call by call, with any value in the end. A timeout of its own
    may be given to a part of it. -/
inductive Talk : Type → Type 1
  | done {α : Type} (a : α) : Talk α
  | call {α β : Type} (call : SessionCall β) (next : Except Failure β → Talk α) : Talk α
  | within {α β : Type} (timeout : Nat) (inner : Talk (Except Failure β))
      (next : Except Failure β → Talk α) : Talk α

namespace Talk

variable {α δ : Type}

def run [Transport δ] {α : Type} : Talk α → Session δ → α × Session δ
  | done a, s => (a, s)
  | call c next, s => (next (c.run s).1).run (c.run s).2
  | within timeout inner next, s =>
    let ended := Session.withTimeout timeout (fun s => inner.run s) s
    (next ended.1).run ended.2

def unwatched {α : Type} : Talk α → Talk α
  | done a => done a
  | call c next => call c.unwatched fun result => (next result).unwatched
  | within timeout inner next =>
    within timeout inner.unwatched fun result => (next result).unwatched

end Talk

/-! ## What can be asked of a programmer -/

/-- The operations of a programmer, by what comes of them. -/
inductive ProgrammerCall : Type → Type
  | deviceInfo : ProgrammerCall (Except Failure DeviceInfo)
  | readFlash (progress : Bool) : ProgrammerCall (Except Failure Bytes)
  | dump (sink : Sink) (progress : Bool) : ProgrammerCall (Except Failure Unit × Sink)
  | erase (progress : Bool) : ProgrammerCall (Except Failure Unit)
  | flash (image : Image) (mode : UserCode) (verify progress : Bool) :
      ProgrammerCall (Except Failure Unit)
  | execute : ProgrammerCall (Except Failure (UInt32 × ExecutionMode))
  | part : ProgrammerCall Part
  | stage : ProgrammerCall Stage

namespace ProgrammerCall

def run {α δ : Type} [Transport δ] : ProgrammerCall α → Programmer δ → α × Programmer δ
  | deviceInfo, p => Programmer.deviceInfo p
  | readFlash progress, p => Programmer.readFlash progress p
  | dump sink progress, p => Programmer.dump sink progress p
  | erase progress, p => Programmer.erase progress p
  | flash image mode verify progress, p => Programmer.flash image mode verify progress p
  | execute, p => Programmer.execute p
  | part, p => (p.part, p)
  | stage, p => (p.stage, p)

/-- The call without what it says about observation. -/
def unwatched {α : Type} : ProgrammerCall α → ProgrammerCall α
  | readFlash _ => readFlash false
  | dump sink _ => dump sink false
  | erase _ => erase false
  | flash image mode verify _ => flash image mode verify false
  | call => call

end ProgrammerCall

/-- What is done with a programmer, or with the session it has. -/
inductive Job (α : Type) : Type 1
  | done (a : α)
  | call {β : Type} (call : ProgrammerCall β) (next : β → Job α)
  | talk {β : Type} (talk : Talk β) (next : β → Job α)
  /-- Goes on with a new programmer for a part, on the same session. -/
  | adopt (part : Part) (next : Job α)
  /-- Goes on with a new session, on the same transport. -/
  | reopen (settings : Session.Settings) (next : Job α)

namespace Job

variable {α : Type}

/-- The job, done with a programmer. The calls on its transport are told in one journal, also
    across sessions. -/
def run {δ : Type} [Transport δ] : Job α → Programmer δ → α × Programmer δ
  | done a, p => (a, p)
  | call c next, p => (next (c.run p).1).run (c.run p).2
  | talk t next, p => (next (t.run p.session).1).run { p with session := (t.run p.session).2 }
  | adopt part next, p => next.run { session := p.session, part }
  | reopen settings next, p =>
    next.run { p with
      session := { Session.start p.session.device settings with journal := p.session.journal } }

def unwatched : Job α → Job α
  | done a => done a
  | call c next => call c.unwatched fun result => (next result).unwatched
  | talk t next => talk t.unwatched fun result => (next result).unwatched
  | adopt part next => adopt part next.unwatched
  | reopen settings next => reopen { settings with trace := false } next.unwatched

end Job

/-! ## What is left when nobody watches

Every call does what it does unwatched, so a talk does, and a job. Two jobs that are the same
unwatched are compared with that one. -/

/-- Programmers that differ in nothing but in what is traced, and in what was told. -/
structure Programmer.SameUnwatched {δ : Type} (p q : Programmer δ) : Prop where
  device : p.session.device = q.session.device
  calls : calls p = calls q
  patience : p.session.settings.timeout = q.session.settings.timeout
  timeout : p.session.timeout = q.session.timeout
  phase : p.session.phase = q.session.phase
  crystal : p.session.crystal = q.session.crystal
  heldBack : p.session.heldBack = q.session.heldBack
  part : p.part = q.part
  stage : p.stage = q.stage

section

variable {α δ : Type} [Transport δ]

namespace Session

/-- Sessions over the same transport, with the same past. -/
def self (δ : Type) : Kinship δ δ where
  device d e := d = e
  crystal c c' := c = c'
  before := []
  before' := []

theorem lasts_self : (self δ).Lasts where
  alike :=
    { write := fun same b => by cases same; exact ⟨rfl, rfl⟩
      read := fun same n t => by cases same; exact ⟨rfl, rfl⟩
      clear := fun same => by cases same; exact ⟨rfl, rfl⟩ }
  crystal _ := rfl

end Session

theorem SessionCall.agrees_unwatched (c : SessionCall α) :
    Agree (Session.Twins (Session.self δ)) c.run c.unwatched.run := by
  have lasts := Session.lasts_self (δ := δ)
  cases c with
  | synchronize crystal quiet => exact Session.synchronize_agrees lasts _ _ _
  | assumeSynchronized => exact Session.enter_agrees _
  | writeBytes b => exact Session.writeBytes_agrees lasts _
  | readExact n => exact Session.readExact_agrees lasts _
  | readLine => exact Session.readLine_agrees lasts
  | drainLine => exact Session.drainLine_agrees lasts
  | readNumber => exact Session.readNumber_agrees lasts
  | clearInput => exact Session.clearInput_agrees lasts
  | commandStatus c => exact Session.commandStatus_agrees lasts _
  | command c => exact Session.command_agrees lasts _
  | unlock => exact Session.unlock_agrees lasts
  | readPartId => exact Session.readPartId_agrees lasts
  | readUid => exact Session.readUid_agrees lasts
  | readBootVersion => exact Session.readBootVersion_agrees lasts
  | prepareForWrite first last => exact Session.prepareForWrite_agrees lasts _ _
  | eraseSectors first last => exact Session.eraseSectors_agrees lasts _ _
  | blankCheck first last => exact Session.blankCheck_agrees lasts _ _
  | copyRamToFlash flashAddress ramAddress size => exact Session.copyRamToFlash_agrees lasts _ _ _
  | compare address1 address2 size => exact Session.compare_agrees lasts _ _ _
  | go address mode => exact Session.go_agrees lasts _ _
  | readMemory address count encoding progress =>
    exact Session.readMemory_agrees lasts _ _ _ _ _
  | writeToRam address data encoding => exact Session.writeToRam_agrees lasts _ _ _
  | connect read crystal source fs => exact Session.connectBy_agrees lasts _ _ _ _
  | phase => exact .get fun s t h => h.phase ▸ agree_pure _
  | frequency => exact .get fun s t h => h.crystal ▸ agree_pure _
  | patience => exact .get fun s t h => h.patience ▸ agree_pure _

theorem Talk.agrees_unwatched (t : Talk α) {s s' : Session δ}
    (twins : Session.Twins (Session.self δ) s s') :
    (t.run s).1 = (t.unwatched.run s').1 ∧
      Session.Twins (Session.self δ) (t.run s).2 (t.unwatched.run s').2 := by
  induction t generalizing s s' with
  | done a => exact ⟨rfl, twins⟩
  | call c next ih =>
    obtain ⟨same, related⟩ := c.agrees_unwatched s s' twins
    rw [run, unwatched, run, same]
    exact ih _ related
  | within timeout inner next ihInner ih =>
    have inside : Agree (Session.Twins (Session.self δ)) (fun s => inner.run s)
        (fun s => inner.unwatched.run s) := fun s s' twins => ihInner twins
    obtain ⟨same, related⟩ := Session.withTimeout_agrees timeout inside s s' twins
    rw [run, unwatched, run, same]
    exact ih _ related

theorem ProgrammerCall.agrees_unwatched (c : ProgrammerCall α) {p q : Programmer δ}
    (twins : Programmer.Twins (Session.self δ) p q) :
    (c.run p).1 = (c.unwatched.run q).1 ∧
      Programmer.Twins (Session.self δ) (c.run p).2 (c.unwatched.run q).2 := by
  have lasts := Session.lasts_self (δ := δ)
  cases c with
  | deviceInfo => exact Programmer.deviceInfo_agrees lasts p q twins
  | readFlash progress => exact Programmer.readFlash_agrees lasts progress false p q twins
  | dump sink progress => exact Programmer.dump_agrees lasts sink progress false twins
  | erase progress => exact Programmer.erase_agrees lasts progress false p q twins
  | flash image mode verify progress =>
    exact Programmer.flash_agrees lasts image mode verify progress false p q twins
  | execute => exact Programmer.execute_agrees lasts p q twins
  | part => exact ⟨twins.part, twins⟩
  | stage => exact ⟨twins.stage, twins⟩

theorem Job.agrees_unwatched (job : Job α) {p q : Programmer δ}
    (twins : Programmer.Twins (Session.self δ) p q) :
    (job.run p).1 = (job.unwatched.run q).1 ∧
      Programmer.Twins (Session.self δ) (job.run p).2 (job.unwatched.run q).2 := by
  induction job generalizing p q with
  | done a => exact ⟨rfl, twins⟩
  | call c next ih =>
    obtain ⟨same, related⟩ := c.agrees_unwatched twins
    rw [run, unwatched, run, same]
    exact ih _ related
  | talk t next ih =>
    obtain ⟨same, related⟩ := t.agrees_unwatched twins.session
    rw [run, unwatched, run, same]
    exact ih _ ⟨related, twins.part, twins.stage⟩
  | adopt part next ih => exact ih ⟨twins.session, rfl, rfl⟩
  | reopen settings next ih =>
    exact ih ⟨⟨twins.session.device, rfl, rfl, rfl, rfl, rfl, twins.session.since⟩, twins.part,
      twins.stage⟩

omit [Transport δ] in
theorem Programmer.sameUnwatched_iff {p q : Programmer δ} :
    p.SameUnwatched q ↔ Twins (Session.self δ) p q := by
  constructor
  · intro h
    exact ⟨⟨h.device, h.patience, h.phase, h.timeout, h.crystal, h.heldBack, _, rfl, h.calls.symm⟩,
      h.part, h.stage⟩
  · intro h
    obtain ⟨cs, left, right⟩ := h.session.since
    exact ⟨h.session.device, left.trans right.symm, h.session.patience, h.session.timeout,
      h.session.phase, h.session.crystal, h.session.heldBack, h.part, h.stage⟩

namespace Programmer.SameUnwatched

variable {p q r : Programmer δ}

omit [Transport δ]

theorem refl (p : Programmer δ) : p.SameUnwatched p :=
  ⟨rfl, rfl, rfl, rfl, rfl, rfl, rfl, rfl, rfl⟩

theorem symm (h : p.SameUnwatched q) : q.SameUnwatched p :=
  ⟨h.device.symm, h.calls.symm, h.patience.symm, h.timeout.symm, h.phase.symm, h.crystal.symm,
    h.heldBack.symm, h.part.symm, h.stage.symm⟩

theorem trans (h : p.SameUnwatched q) (h' : q.SameUnwatched r) : p.SameUnwatched r :=
  ⟨h.device.trans h'.device, h.calls.trans h'.calls, h.patience.trans h'.patience,
    h.timeout.trans h'.timeout, h.phase.trans h'.phase, h.crystal.trans h'.crystal,
    h.heldBack.trans h'.heldBack, h.part.trans h'.part, h.stage.trans h'.stage⟩

end Programmer.SameUnwatched

/-- **Observation changes nothing.** Jobs that differ in nothing but in what they say about
    observation, done with programmers that differ in nothing but in what is traced and in what
    was told before, come to the same and end the same. -/
theorem Job.run_unobserved {job job' : Job α} (same : job.unwatched = job'.unwatched)
    {p q : Programmer δ} (alike : p.SameUnwatched q) :
    (job.run p).1 = (job'.run q).1 ∧ (job.run p).2.SameUnwatched (job'.run q).2 := by
  -- both do what the job does unwatched, from the second programmer
  obtain ⟨left, leftEnd⟩ := job.agrees_unwatched (Programmer.sameUnwatched_iff.mp alike)
  obtain ⟨right, rightEnd⟩ := job'.agrees_unwatched (Programmer.sameUnwatched_iff.mp (.refl q))
  rw [← same] at right rightEnd
  exact ⟨left.trans right.symm, (Programmer.sameUnwatched_iff.mpr leftEnd).trans
    (Programmer.sameUnwatched_iff.mpr rightEnd).symm⟩

/-- A job that takes up with the device and asks for its flash. -/
def Job.backUp (quiet progress : Bool) : Job (Except Failure Bytes) :=
  .talk (.call (.synchronize 12000 quiet) .done) fun _ => .call (.readFlash progress) .done

/-- The programmer of the rehearsal, with tracing. -/
def Programmer.tracedRehearsal : Programmer Scripted :=
  { rehearsal with session.settings.trace := true }

/-- So it is with the device of the rehearsal, traced or not. -/
theorem Job.run_unobserved_rehearsed :
    (backUp true true).unwatched = (backUp false false).unwatched ∧
      Programmer.tracedRehearsal.SameUnwatched Programmer.rehearsal ∧
      ((backUp true true).run Programmer.tracedRehearsal).1 =
        ((backUp false false).run Programmer.rehearsal).1 ∧
      ((backUp true true).run Programmer.tracedRehearsal).2.SameUnwatched
        ((backUp false false).run Programmer.rehearsal).2 := by
  have same : (backUp true true).unwatched = (backUp false false).unwatched := rfl
  have alike : Programmer.tracedRehearsal.SameUnwatched Programmer.rehearsal :=
    ⟨rfl, rfl, rfl, rfl, rfl, rfl, rfl, rfl, rfl⟩
  exact ⟨same, alike, Job.run_unobserved same alike⟩

end

end SerialIsp
