import SerialIsp.Proofs.Failures
import SerialIsp.Proofs.Frames.Operations
import SerialIsp.Proofs.Observation

/-!
# Arguments are checked first

Eight operations of a session refuse arguments that the bootloader would not take. `guards`
lists what each of them checks, in order and as numbers; and an operation is its checks, and
then a part that checks nothing any more (`SessionCall.run_eq`). So an argument that does not
pass leaves the session as it was, down to its last notice. Where all of them pass, the first
thing that is done is to write the command with these arguments, and from there on it is for
the device and the line to fail.
-/

namespace SerialIsp

open Wire

variable {α δ : Type}

theorem Follows.ofDevice {σ : Type} [OnLine σ] {action : ExceptT Failure (StateM σ) α}
    {p : Dialogue α} (h : Follows action p) (only : p.FailsOnly Failure.isOfDevice) :
    FailsAs Failure.isOfDevice action := by
  intro s failure s' failed
  rcases h.failsAs only failed with isBreak | ofDevice
  · exact Failure.isOfDevice_of_isBreak isBreak
  · exact ofDevice

/-! ## What is checked -/

namespace SessionCall

/-- An operand has to be whole words. -/
def wordCheck (operand : Operand) (value : UInt32) : Plan.Check where
  passed := value % 4 = 0
  failure := .misaligned operand value 4

/-- Sectors have to be told in order. -/
def rangeCheck (first last : UInt32) : Plan.Check where
  passed := first ≤ last
  failure := .sectorRange first last

/-- What the arguments of a call are checked for, in order. -/
def guards : SessionCall α → List Plan.Check
  | prepareForWrite first last => [rangeCheck first last]
  | eraseSectors first last => [rangeCheck first last]
  | blankCheck first last => [rangeCheck first last]
  | copyRamToFlash _ ramAddress _ => [wordCheck .ramAddress ramAddress]
  | compare address1 address2 size =>
    [wordCheck .firstAddress address1, wordCheck .secondAddress address2,
      wordCheck .byteCount size]
  | go address _ => [{ passed := 0x200 ≤ address, failure := .jumpAddress address }]
  | readMemory address count _ _ => [wordCheck .address address, wordCheck .byteCount count]
  | writeToRam address data _ =>
    [wordCheck .address address,
      { passed := data.length % 4 = 0
        failure := .misaligned .byteCount data.length.toUInt32 4 }]
  | _ => []

/-- The command of a call whose arguments are checked. -/
def guarded? : SessionCall α → Option Command
  | prepareForWrite first last => some (.prepareForWrite first last)
  | eraseSectors first last => some (.erase first last)
  | blankCheck first last => some (.blankCheck first last)
  | copyRamToFlash flashAddress ramAddress size =>
    some (.copyRamToFlash flashAddress ramAddress size)
  | compare address1 address2 size => some (.compare address1 address2 size)
  | go address mode => some (.go address mode)
  | readMemory address count _ _ => some (.readMemory address count)
  | writeToRam address data _ => some (.writeToRam address data.length.toUInt32)
  | _ => none

end SessionCall

/-! ## Checks in front of an action -/

namespace Session

/-- Goes through some checks first. -/
def guarded (checks : List Plan.Check) (action : SessionM δ α) : SessionM δ α := do
  ofExcept (forM checks Plan.Check.settle)
  action

theorem guarded_nil (action : SessionM δ α) : guarded [] action = action := rfl

theorem guarded_cons (check : Plan.Check) (checks : List Plan.Check) (action : SessionM δ α) :
    guarded (check :: checks) action = (do
      ofExcept check.settle
      guarded checks action) := by
  rw [guarded, List.forM_cons]
  cases check.settle <;> rfl

theorem guarded_apply (checks : List Plan.Check) (action : SessionM δ α) (s : Session δ) :
    guarded checks action s =
      match checks.find? fun check => !check.passed with
      | some check => (.error check.failure, s)
      | none => action s := by
  rw [guarded, Plan.forM_settle]
  cases checks.find? fun check => !check.passed <;> rfl

theorem checkAlignment_eq (operand : Operand) (value : UInt32) :
    checkAlignment operand value 4 = (SessionCall.wordCheck operand value).settle :=
  Plan.ite_eq_settle Iff.rfl _

theorem checkSectorRange_eq (first last : UInt32) :
    checkSectorRange first last = (SessionCall.rangeCheck first last).settle :=
  Plan.ite_eq_settle UInt32.not_le.symm _

/-- The length of data is checked as a word, whose last two bits are those of the length. -/
theorem checkAlignment_length (operand : Operand) (length : Nat) :
    checkAlignment operand length.toUInt32 4 =
      Plan.Check.settle
        { passed := length % 4 = 0
          failure := .misaligned operand length.toUInt32 4 } := by
  have same : length.toUInt32 % 4 = 0 ↔ length % 4 = 0 := by
    rw [← UInt32.toNat_inj, UInt32.toNat_mod]
    show length % 2 ^ 32 % 4 = 0 ↔ length % 4 = 0
    omega
  exact Plan.ite_eq_settle (not_congr same) _

/-! ## Behind the checks -/

variable [Transport δ]

theorem commandStatus_ofDevice (c : Command) :
    FailsAs Failure.isOfDevice (commandStatus c : SessionM δ Status) :=
  (commandStatus_follows c).ofDevice
    ((Dialogue.commandStatus_failsOnly c).mono fun _ => Failure.isOfDevice_of_isGarbled)

theorem command_ofDevice (c : Command) :
    FailsAs Failure.isOfDevice (command c : SessionM δ Unit) :=
  (command_follows c).ofDevice (Dialogue.command_ofDevice c)

theorem replyNumber_ofDevice (kind : CommandKind) :
    FailsAs Failure.isOfDevice (replyNumber kind : SessionM δ UInt32) :=
  (replyNumber_follows kind).ofDevice Dialogue.listening_number.ofDevice

omit [Transport δ] in
theorem refused_ofDevice (kind : CommandKind) (status : Status) :
    FailsAs Failure.isOfDevice (throw (.refused kind status) : SessionM δ α) := by
  intro s failure s' failed
  cases failed
  trivial

theorem settleBlankCheck_ofDevice (status : Status) :
    FailsAs Failure.isOfDevice (settleBlankCheck status : SessionM δ BlankCheck) := by
  unfold settleBlankCheck
  split
  · exact failsAs_pure _
  · exact (replyNumber_ofDevice _).bind fun _ _ _ _ =>
      (replyNumber_ofDevice _).bind fun _ _ _ _ => failsAs_pure _
  · exact refused_ofDevice _ _

theorem settleCompare_ofDevice (status : Status) :
    FailsAs Failure.isOfDevice (settleCompare status : SessionM δ (Option UInt32)) := by
  unfold settleCompare
  split
  · exact failsAs_pure _
  · exact (replyNumber_ofDevice _).bind fun _ _ _ _ => failsAs_pure _
  · exact refused_ofDevice _ _

theorem fetch_ofDevice (address : UInt32) (count : Nat) (encoding : Encoding)
    (progress : Bool) :
    FailsAs Failure.isOfDevice (fetch address count encoding progress : SessionM δ Bytes) :=
  (fetch_follows address count encoding progress).ofDevice
    (Dialogue.transfer_ofDevice count encoding)

theorem deliver_ofDevice (data : Bytes) (encoding : Encoding) :
    FailsAs Failure.isOfDevice (deliver data encoding : SessionM δ Unit) := by
  refine (deliver_follows data encoding).ofDevice ?_
  rw [Dialogue.deliver_eq]
  exact Dialogue.staging_ofDevice encoding data

end Session

namespace SessionCall

variable [Transport δ]

/-- The call behind its checks. -/
def unguarded : SessionCall α → SessionM δ α
  | prepareForWrite first last => Session.command (.prepareForWrite first last)
  | eraseSectors first last => Session.command (.erase first last)
  | blankCheck first last => do
    Session.settleBlankCheck (← Session.commandStatus (.blankCheck first last))
  | copyRamToFlash flashAddress ramAddress size =>
    Session.command (.copyRamToFlash flashAddress ramAddress size)
  | compare address1 address2 size => do
    Session.settleCompare (← Session.commandStatus (.compare address1 address2 size))
  | go address mode => Session.command (.go address mode)
  | readMemory address count encoding progress => do
    Session.command (.readMemory address count)
    Session.fetch address count.toNat encoding progress
  | writeToRam address data encoding => do
    Session.command (.writeToRam address data.length.toUInt32)
    Session.deliver data encoding
  | call => call.run

/-- **A call is its checks, and then what is behind them.** -/
theorem run_eq (call : SessionCall α) :
    (call.run : SessionM δ α) = Session.guarded call.guards call.unguarded := by
  cases call with
  | prepareForWrite first last =>
    rw [run, guards, unguarded, Session.guarded_cons, Session.guarded_nil,
      Session.prepareForWrite, Session.checkSectorRange_eq]
  | eraseSectors first last =>
    rw [run, guards, unguarded, Session.guarded_cons, Session.guarded_nil,
      Session.eraseSectors, Session.checkSectorRange_eq]
  | blankCheck first last =>
    rw [run, guards, unguarded, Session.guarded_cons, Session.guarded_nil,
      Session.blankCheck_eq, Session.checkSectorRange_eq]
  | copyRamToFlash flashAddress ramAddress size =>
    rw [run, guards, unguarded, Session.guarded_cons, Session.guarded_nil,
      Session.copyRamToFlash, Session.checkAlignment_eq]
  | compare address1 address2 size =>
    rw [run, guards, unguarded, Session.guarded_cons, Session.guarded_cons,
      Session.guarded_cons, Session.guarded_nil, Session.compare_eq, Session.checkAlignment_eq,
      Session.checkAlignment_eq, Session.checkAlignment_eq]
  | go address mode =>
    have settled : Plan.Check.settle
        { passed := (0x200 : UInt32) ≤ address, failure := .jumpAddress address } =
          if address < Session.lowestEntry then .error (.jumpAddress address) else .ok () :=
      (Plan.ite_eq_settle UInt32.not_le.symm _).symm
    rw [run, guards, unguarded, Session.guarded_cons, Session.guarded_nil, settled, Session.go]
    split <;> rfl
  | readMemory address count encoding progress =>
    rw [run, guards, unguarded, Session.guarded_cons, Session.guarded_cons, Session.guarded_nil,
      Session.readMemory_eq, Session.checkAlignment_eq, Session.checkAlignment_eq]
  | writeToRam address data encoding =>
    rw [run, guards, unguarded, Session.guarded_cons, Session.guarded_cons, Session.guarded_nil,
      Session.writeToRam_eq, Session.checkAlignment_eq, Session.checkAlignment_length]
  | _ => exact (Session.guarded_nil _).symm

/-- What is behind the checks opens with the command. -/
theorem opens_unguarded {call : SessionCall α} {command : Command}
    (guarded : call.guarded? = some command) :
    Session.Opens command.line (call.unguarded : SessionM δ α) := by
  have frame := Session.frame_undropped (δ := δ)
  cases call with
  | prepareForWrite | eraseSectors | copyRamToFlash | go =>
    cases guarded
    exact Session.opens_command _
  | blankCheck first last =>
    cases guarded
    exact (Session.opens_commandStatus _).bind frame.settleBlankCheck
  | compare address1 address2 size =>
    cases guarded
    exact (Session.opens_commandStatus _).bind frame.settleCompare
  | readMemory address count encoding progress =>
    cases guarded
    exact (Session.opens_command _).bind fun _ => frame.fetch _ _ _ _
  | writeToRam address data encoding =>
    cases guarded
    exact (Session.opens_command _).bind fun _ => frame.deliver _ _
  | _ => cases guarded

theorem unguarded_ofDevice {call : SessionCall α} {command : Command}
    (guarded : call.guarded? = some command) :
    FailsAs Failure.isOfDevice (call.unguarded : SessionM δ α) := by
  cases call with
  | prepareForWrite | eraseSectors | copyRamToFlash | go => exact Session.command_ofDevice _
  | blankCheck first last =>
    exact (Session.commandStatus_ofDevice _).bind fun status _ _ _ =>
      Session.settleBlankCheck_ofDevice status
  | compare address1 address2 size =>
    exact (Session.commandStatus_ofDevice _).bind fun status _ _ _ =>
      Session.settleCompare_ofDevice status
  | readMemory address count encoding progress =>
    exact (Session.command_ofDevice _).bind fun _ _ _ _ => Session.fetch_ofDevice _ _ _ _
  | writeToRam address data encoding =>
    exact (Session.command_ofDevice _).bind fun _ _ _ _ => Session.deliver_ofDevice _ _
  | _ => cases guarded

/-- **Arguments are checked first.** The first check that is not passed is what a call fails
    with, and nothing else has happened then. A call whose arguments pass writes its command
    before it does anything else, and does not fail by its arguments. -/
theorem checks_arguments_first (call : SessionCall α) {command : Command}
    (guarded : call.guarded? = some command) (s : Session δ) :
    match call.guards.find? fun check => !check.passed with
    | some check => call.run s = (.error check.failure, s)
    | none => (∀ failure, (call.run s).1 = .error failure → failure.isOfDevice) ∧
        ∃ outcome later,
          calls (call.run s).2 = calls s ++ .write command.line outcome :: later := by
  rw [call.run_eq, Session.guarded_apply]
  cases call.guards.find? fun check => !check.passed with
  | some check => rfl
  | none =>
    refine ⟨fun failure failed => ?_, opens_unguarded guarded s⟩
    exact unguarded_ofDevice guarded (Prod.ext failed rfl)

/-- Where several arguments are no words, the first of them is told; four bytes are sent to a
    device that never answers. -/
theorem checks_arguments_first_unanswered :
    let s : Session Scripted := Session.start {} {}
    (compare 4 2 3).run s = (.error (.misaligned .secondAddress 2 4), s) ∧
      ∃ outcome later, calls ((writeToRam 0x10000200 [1, 2, 3, 4] .raw).run s).2 =
        .write (Command.writeToRam 0x10000200 4).line outcome :: later := by
  intro s
  have refused := (compare 4 2 3).checks_arguments_first rfl s
  have sent := (writeToRam 0x10000200 [1, 2, 3, 4] .raw).checks_arguments_first rfl s
  exact ⟨refused, sent.2⟩

end SessionCall
end SerialIsp
