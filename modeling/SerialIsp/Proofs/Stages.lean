import SerialIsp.Proofs.Objections
import SerialIsp.Proofs.Observation

/-!
# Stages, and the faults that strike in them

A programmer is at rest between operations: idle, or done, or failed. An operation on the flash
ends done or failed, by whether it succeeds, and no other operation touches the stage. This
holds through every job.

While an image is programmed, faults of the line strike in one of three phases, and tell which:
those of programming are marked, those of erasing and of reading back are not. No other failure
is marked, since nothing below programming marks anything (`Unmarked`), and every failure says
in the last notice in which stage it struck (`Programmer.flash_eq_error`).
-/

namespace SerialIsp

open Wire

variable {α β δ : Type}

/-! ## Failures without a mark -/

namespace Session

/-- Actions whose failures are not marked as those of programming. -/
def Unmarked (action : SessionM δ α) : Prop :=
  FailsAs (fun failure => ∀ fault, failure ≠ .flashing fault) action

theorem Unmarked.bind {action : SessionM δ α} {next : α → SessionM δ β} (first : Unmarked action)
    (second : ∀ a, Unmarked (next a)) : Unmarked (action >>= next) :=
  FailsAs.bind first fun a _ _ _ => second a

theorem Unmarked.after {quiet : SessionM δ Unit} {next : Unit → SessionM δ α}
    (silent : Silent quiet) (h : Unmarked (next ())) : Unmarked (quiet >>= next) :=
  Unmarked.bind silent.failsAs fun _ => h

theorem Unmarked.get {next : Session δ → SessionM δ α} (h : ∀ s, Unmarked (next s)) :
    Unmarked (MonadState.get >>= next) := fun s => @h s s

theorem Unmarked.ite {c : Prop} [Decidable c] {action other : SessionM δ α} (h : Unmarked action)
    (h' : Unmarked other) : Unmarked (if c then action else other) := by
  split
  · exact h
  · exact h'

theorem unmarked_pure (a : α) : Unmarked (pure a : SessionM δ α) := failsAs_pure a

theorem unmarked_throw {failure : Failure} (h : ∀ fault, failure ≠ .flashing fault) :
    Unmarked (throw failure : SessionM δ α) := by
  intro s f s' failed
  rw [run_throw] at failed
  cases failed
  exact h

theorem unmarked_failLink (fault : LinkFault) : Unmarked (failLink fault : SessionM δ α) :=
  unmarked_throw nofun

theorem unmarked_ofOutcome (outcome : Except PortFault α) :
    Unmarked (ofOutcome outcome : SessionM δ α) := by
  cases outcome with
  | ok a => exact unmarked_pure a
  | error fault => exact unmarked_failLink _

theorem unmarked_during (k : CommandKind) {action : SessionM δ α} (h : Unmarked action) :
    Unmarked (during k action) := by
  intro s failure s' failed
  unfold during at failed
  rcases run : action s with ⟨f | a, between⟩
  · rw [run] at failed
    cases failed
    -- a name goes into a fault of the line, whichever its mark
    have unmarked := h run
    intro fault marked
    cases f with
    | flashing fault => exact unmarked fault rfl
    | _ => cases marked
  · rw [run] at failed
    cases failed

theorem unmarked_withTimeout (timeout : Nat) {action : SessionM δ α} (h : Unmarked action) :
    Unmarked (withTimeout timeout action) := by
  intro s failure s' failed
  rcases run : action { s with timeout := timeout } with ⟨f | a, between⟩
  · rw [withTimeout, run] at failed
    cases failed
    exact h run
  · rw [withTimeout, run] at failed
    cases failed

theorem unmarked_checkAlignment (operand : Operand) (value alignment : UInt32) :
    Unmarked (ofExcept (checkAlignment operand value alignment) : SessionM δ Unit) := by
  unfold checkAlignment
  split
  · exact unmarked_throw nofun
  · exact unmarked_pure ()

theorem unmarked_checkSectorRange (first last : UInt32) :
    Unmarked (ofExcept (checkSectorRange first last) : SessionM δ Unit) := by
  unfold checkSectorRange
  split
  · exact unmarked_throw nofun
  · exact unmarked_pure ()

variable [Transport δ]

theorem unmarked_writeBytes (b : Bytes) : Unmarked (writeBytes b : SessionM δ Unit) := by
  refine .after (silent_traceNotice _) (Unmarked.bind ?_ fun outcome => ?_)
  · exact fun s failure s' failed => nomatch failed
  · refine (unmarked_ofOutcome outcome).bind fun written => ?_
    split
    · exact unmarked_failLink _
    · exact unmarked_pure ()

/-! Readers fail by the transport, or by a reply that makes no sense. -/

theorem unmarked_readExact (n : Nat) : Unmarked (readExact n : SessionM δ Bytes) := by
  have checked (b : Bytes) : Unmarked (do
      if 1 < n then traceNotice (.received b)
      if b.length < n then
        notify (.cutShort b.length n)
        failLink (.timeout none)
      return b : SessionM δ Bytes) := by
    have last : Unmarked (do
        if b.length < n then
          notify (.cutShort b.length n)
          failLink (.timeout none)
        return b : SessionM δ Bytes) :=
      .ite (.after (silent_notify _) ((unmarked_failLink _).bind fun _ => unmarked_pure b))
        (unmarked_pure b)
    exact .ite (.after (silent_traceNotice _) last) last
  have taken : Unmarked (takeHeldBack : SessionM δ Bytes) := fun _ _ _ failed => nomatch failed
  have called (wanted : Nat) : Unmarked (callRead wanted : SessionM δ _) :=
    fun _ _ _ failed => nomatch failed
  refine .ite (unmarked_pure []) (taken.bind fun held => ?_)
  refine .ite ((called _).bind fun outcome => ?_) (checked _)
  exact (unmarked_ofOutcome outcome).bind fun b => checked (held ++ b)

theorem unmarked_readByte : Unmarked (readByte : SessionM δ UInt8) :=
  (unmarked_readExact 1).bind fun _ => unmarked_pure _

theorem unmarked_finishLine : Unmarked (finishLine : SessionM δ Unit) :=
  unmarked_readByte.bind fun _ => .ite (fun _ _ _ failed => nomatch failed) (unmarked_pure ())

theorem unmarked_readLineFrom (line : Bytes) (room : Nat) :
    Unmarked (readLineFrom line room : SessionM δ Bytes) := by
  have ended (line : Bytes) : Unmarked (do finishLine; return line : SessionM δ Bytes) :=
    unmarked_finishLine.bind fun _ => unmarked_pure line
  induction room generalizing line with
  | zero =>
    rw [readLineFrom]
    refine unmarked_readByte.bind fun c => ?_
    exact .ite (unmarked_pure line) (.ite (ended line) (unmarked_failLink _))
  | succ room ih =>
    rw [readLineFrom]
    refine unmarked_readByte.bind fun c => ?_
    exact .ite (unmarked_pure line) (.ite (ended line) (ih _))

theorem unmarked_readLine : Unmarked (readLine : SessionM δ String) :=
  (unmarked_readLineFrom [] lineLimit).bind fun _ =>
    .after (silent_traceNotice _) (unmarked_pure _)

theorem unmarked_readNumber : Unmarked (readNumber : SessionM δ UInt32) := by
  refine unmarked_readLine.bind fun line => ?_
  cases Text.readNumber 10 Text.limit32 (Text.trim line.toList) with
  | ok n => exact unmarked_pure _
  | error fault => exact unmarked_failLink _

theorem unmarked_drainLine : Unmarked (drainLine : SessionM δ Unit) := by
  intro s
  -- every byte read lowers the bound on those still to come
  induction bound : s.pending using Nat.strongRecOn generalizing s with
  | ind n ih =>
    rw [drainLine_eq]
    intro failure s' failed
    rw [bind_apply] at failed
    rcases read : readByte s with ⟨f | c, between⟩
    · rw [read] at failed
      cases failed
      exact unmarked_readByte read
    · rw [read] at failed
      dsimp only at failed
      split at failed
      · cases failed
      · split at failed
        · exact unmarked_finishLine failed
        · exact ih _ (bound ▸ pending_of_readByte read) rfl failed

theorem unmarked_readStatus : Unmarked (readStatus : SessionM δ Status) := by
  refine (unmarked_readExact _).bind fun reply => ?_
  dsimp only
  cases Text.readNumber 10 Text.limit32
      ((reply.takeWhile isDigit).map fun c => Char.ofNat c.toNat) with
  | error fault => exact unmarked_failLink _
  | ok n =>
    exact .ite (unmarked_pure _) (.ite (unmarked_finishLine.bind fun _ => unmarked_pure _)
      (unmarked_drainLine.bind fun _ => unmarked_pure _))

/-! Commands fail besides by the status, and transfers by a block that stays corrupt. -/

theorem unmarked_commandStatus (c : Command) :
    Unmarked (commandStatus c : SessionM δ Status) := by
  have exchange : Unmarked (do writeBytes c.line; readStatus : SessionM δ Status) :=
    (unmarked_writeBytes _).bind fun _ => unmarked_readStatus
  refine .after (silent_notify _) (.get fun s => ?_)
  refine (unmarked_during _ (unmarked_withTimeout _ exchange)).bind fun status => ?_
  exact .after (silent_traceNotice _) (unmarked_pure status)

theorem unmarked_command (c : Command) : Unmarked (command c : SessionM δ Unit) := by
  refine (unmarked_commandStatus c).bind fun status => ?_
  cases status.isSuccess with
  | true => exact unmarked_pure ()
  | false =>
    refine .get fun s => ?_
    cases s.settings.trace with
    | true => exact unmarked_throw nofun
    | false => exact Unmarked.after (silent_notify _) (unmarked_throw nofun)

theorem unmarked_prepareForWrite (first last : UInt32) :
    Unmarked (prepareForWrite first last : SessionM δ Unit) :=
  (unmarked_checkSectorRange _ _).bind fun _ => unmarked_command _

theorem unmarked_eraseSectors (first last : UInt32) :
    Unmarked (eraseSectors first last : SessionM δ Unit) :=
  (unmarked_checkSectorRange _ _).bind fun _ => unmarked_command _

theorem unmarked_copyRamToFlash (flashAddress ramAddress size : UInt32) :
    Unmarked (copyRamToFlash flashAddress ramAddress size : SessionM δ Unit) :=
  (unmarked_checkAlignment _ _ _).bind fun _ => unmarked_command _

theorem unmarked_blankCheck (first last : UInt32) :
    Unmarked (blankCheck first last : SessionM δ BlankCheck) := by
  have number : Unmarked (replyNumber .blankCheck : SessionM δ UInt32) :=
    unmarked_during _ unmarked_readNumber
  refine (unmarked_checkSectorRange _ _).bind fun _ =>
    (unmarked_commandStatus _).bind fun status => ?_
  cases status with
  | known code =>
    cases code with
    | cmdSuccess => exact unmarked_pure _
    | sectorNotBlank => exact number.bind fun _ => number.bind fun _ => unmarked_pure _
    | _ => exact unmarked_throw nofun
  | unknown n => exact unmarked_throw nofun

theorem unmarked_readSum : Unmarked (readSum : SessionM δ (Option UInt32)) := by
  intro s failure s' failed
  simp only [readSum, bind_apply, attempt] at failed
  rcases run : readNumber s with ⟨f | sum, between⟩
  · have named : during .readMemory readNumber s = (.error (f.during .readMemory), between) := by
      unfold during
      rw [run]
    have unmarked := unmarked_during .readMemory unmarked_readNumber named
    rw [run] at failed
    cases f with
    | connecting fault => cases fault <;> cases failed <;> exact unmarked
    | _ =>
      cases failed
      exact unmarked
  · rw [run] at failed
    cases failed

omit [Transport δ] in
theorem unmarked_untilArrived {sending : SessionM δ (Option α)} {again : SessionM δ Unit}
    (h : Unmarked sending) (h' : Unmarked again) (block resends : Nat) :
    Unmarked (untilArrived block sending again resends) := by
  induction resends with
  | zero =>
    rw [untilArrived]
    refine h.bind fun arrived => ?_
    cases arrived with
    | some a => exact unmarked_pure a
    | none =>
      refine unmarked_throw fun fault same => ?_
      cases same
  | succ left ih =>
    rw [untilArrived]
    refine h.bind fun arrived => ?_
    cases arrived with
    | some a => exact unmarked_pure a
    | none => exact .after (silent_notify _) (h'.bind fun _ => ih)

theorem unmarked_readBlock (block length : Nat) :
    Unmarked (readBlock block length : SessionM δ Bytes) := by
  have received : Unmarked (receiveBlock block length : SessionM δ (Option Bytes)) := by
    refine (unmarked_during _ (unmarked_readExact _)).bind fun encoded =>
      unmarked_readSum.bind fun sum => ?_
    cases decode encoded with
    | ok b => exact unmarked_pure _
    | error cut => exact .after (silent_notify _) (unmarked_pure none)
  exact (unmarked_untilArrived received (unmarked_writeBytes _) _ _).bind fun b =>
    (unmarked_writeBytes _).bind fun _ => unmarked_pure b

theorem unmarked_readBlocksFrom (progress : Bool) (count block left : Nat) :
    Unmarked (readBlocksFrom progress count block left : SessionM δ Bytes) := by
  induction left using Nat.strongRecOn generalizing block with
  | ind left ih =>
    rw [readBlocksFrom]
    split
    · exact unmarked_pure []
    · next more =>
      refine (unmarked_readBlock _ _).bind fun b => .after (silent_report _ _) ?_
      exact (ih _ (sub_block_lt more) _).bind fun _ => unmarked_pure _

theorem unmarked_readMemory (address count : UInt32) (encoding : Encoding) (progress : Bool) :
    Unmarked (readMemory address count encoding progress : SessionM δ Bytes) := by
  have finish (data : Bytes) : Unmarked (do
      report progress .finish
      return data : SessionM δ Bytes) := .after (silent_report _ _) (unmarked_pure data)
  refine (unmarked_checkAlignment _ _ _).bind fun _ => (unmarked_checkAlignment _ _ _).bind fun _ =>
    (unmarked_command _).bind fun _ => .after (silent_report _ _) ?_
  cases encoding with
  | raw => exact (unmarked_during _ (unmarked_readExact _)).bind finish
  | lines =>
    exact Unmarked.bind (.after (silent_notify _) (unmarked_readBlocksFrom _ _ _ _)) finish

theorem unmarked_writeBlocks (block : Nat) (bs : List Bytes) :
    Unmarked (writeBlocks block bs : SessionM δ Unit) := by
  have sent (block : Nat) (frame : Bytes) :
      Unmarked (sendFrame block frame : SessionM δ (Option Unit)) :=
    (unmarked_writeBytes _).bind fun _ =>
      (unmarked_during _ unmarked_readLine).bind fun reply =>
        .ite (unmarked_pure _) (.after (silent_notify _) (unmarked_pure none))
  induction bs generalizing block with
  | nil => exact unmarked_pure ()
  | cons b rest ih =>
    exact (unmarked_untilArrived (sent _ _) (unmarked_pure ()) _ _).bind fun _ => ih _

theorem unmarked_writeToRam (address : UInt32) (data : Bytes) (encoding : Encoding) :
    Unmarked (writeToRam address data encoding : SessionM δ Unit) := by
  refine (unmarked_checkAlignment _ _ _).bind fun _ => (unmarked_checkAlignment _ _ _).bind fun _ =>
    (unmarked_command _).bind fun _ => ?_
  cases encoding with
  | raw => exact unmarked_writeBytes data
  | lines => exact unmarked_writeBlocks 0 _

/-! Nor do the three phases of programming an image mark anything themselves. -/

theorem unmarked_eraseFlash (part : Part) (progress : Bool) :
    Unmarked (eraseFlash part progress : SessionM δ Unit) := by
  have cleared (sector : UInt32) : Unmarked (clearSector sector : SessionM δ Bool) := by
    refine (unmarked_blankCheck _ _).bind fun found => ?_
    cases found with
    | blank => exact .after (silent_notify _) (unmarked_pure false)
    | used offset content =>
      refine .after (silent_notify _) ((unmarked_prepareForWrite _ _).bind fun _ => ?_)
      exact (unmarked_eraseSectors _ _).bind fun _ => unmarked_pure true
  have sectors (sector : UInt32) (left : Nat) :
      Unmarked (clearSectors progress sector left : SessionM δ Nat) := by
    induction left generalizing sector with
    | zero => exact unmarked_pure 0
    | succ left ih =>
      refine (cleared sector).bind fun erased => .after (silent_report _ _) ?_
      exact (ih _).bind fun n => unmarked_pure _
  refine (unmarked_command _).bind fun _ => .after (silent_report _ _) ?_
  refine (sectors _ _).bind fun erased => .after (silent_report _ _) ?_
  exact (silent_notify _).failsAs

theorem unmarked_programFlash (part : Part) (plan : Plan) (progress : Bool) :
    Unmarked (programFlash part plan progress : SessionM δ Unit) := by
  have written (index : Nat) (block : Bytes) :
      Unmarked (programBlock part plan.blockSize index block : SessionM δ Unit) :=
    .after (silent_notify _) ((unmarked_prepareForWrite _ _).bind fun _ =>
      (unmarked_writeToRam _ _ _).bind fun _ => unmarked_copyRamToFlash _ _ _)
  have blocks (index : Nat) (bs : List Bytes) :
      Unmarked (programBlocks part plan.blockSize progress index bs : SessionM δ Unit) := by
    induction bs generalizing index with
    | nil => exact unmarked_pure ()
    | cons block rest ih =>
      exact (written _ _).bind fun _ => .after (silent_report _ _) (ih _)
  refine .after (silent_notify _) (.after (silent_report _ _) ?_)
  exact (blocks _ _).bind fun _ => (silent_report _ _).failsAs

theorem unmarked_verifyFlash (part : Part) (data : Bytes) (progress : Bool) :
    Unmarked (verifyFlash part data progress : SessionM δ Unit) := by
  refine .ite (silent_notify _).failsAs ((unmarked_readMemory _ _ _ _).bind fun actual => ?_)
  dsimp only
  split
  · exact unmarked_throw nofun
  · refine .ite (failsAs_throw_bind ?_ _) (silent_notify _).failsAs
    exact nofun

end Session

/-! ## Operations on the flash -/

namespace Programmer

/-- How an operation on the flash ends, by how its action does. -/
theorem operation_apply (first : Stage) (action : ProgrammerM δ α) (P : Programmer δ) :
    operation first action P =
      match action { P with stage := first } with
      | (.ok a, P') => (.ok a, { P' with stage := .done })
      | (.error failure, P') => (.error failure, { P' with
          session := P'.session.noted [.failedWhile P'.stage.name]
          stage := .failed }) := by
  rcases run : action { P with stage := first } with ⟨failure | a, P'⟩
  · simp only [operation, run_bind, enterStage_apply, run_tryCatch, run, run_get, onSession_apply,
      Session.notify_apply, run_throw]
  · simp only [operation, run_bind, enterStage_apply, run_tryCatch, run]
    rfl

variable [Transport δ]

/-- **Where programming an image fails**, and why: in which stage, with each phase taken on the
    session that the phase before it left. -/
inductive Struck (image : Image) (mode : UserCode) (verify progress : Bool) (P : Programmer δ) :
    Stage → Failure → Prop
  | validating {failure : Failure} (refused : Plan.make P.part image mode = .error failure) :
      Struck image mode verify progress P .validating failure
  | erasing {plan : Plan} {failure : Failure} (made : Plan.make P.part image mode = .ok plan)
      (failed : (Session.eraseFlash P.part progress
        (P.session.noted (image.sumNotices mode))).1 = .error failure) :
      Struck image mode verify progress P .erasing failure
  | programming {plan : Plan} {s : Session δ} {failure : Failure}
      (made : Plan.make P.part image mode = .ok plan)
      (erased : Session.eraseFlash P.part progress
        (P.session.noted (image.sumNotices mode)) = (.ok (), s))
      (failed : (Session.programFlash P.part plan progress s).1 = .error failure) :
      Struck image mode verify progress P .programming failure
  | verifying {plan : Plan} {s s' : Session δ} {failure : Failure}
      (made : Plan.make P.part image mode = .ok plan)
      (erased : Session.eraseFlash P.part progress
        (P.session.noted (image.sumNotices mode)) = (.ok (), s))
      (programmed : Session.programFlash P.part plan progress s = (.ok (), s'))
      (verifies : verify = true)
      (failed : (Session.verifyFlash P.part plan.data progress s').1 = .error failure) :
      Struck image mode verify progress P .verifying failure

/-- The failure of an operation, by the stage it struck in and its cause. -/
def mark : Stage → Failure → Failure
  | .programming, cause => cause.whileFlashing
  | _, cause => cause

section

variable {image : Image} {mode : UserCode} {verify progress : Bool} {P : Programmer δ}
  {stage : Stage} {failure cause : Failure}

/-- What is done with a plan, phase by phase. -/
theorem flash_of_make {plan : Plan} (made : Plan.make P.part image mode = .ok plan) :
    flash image mode verify progress P =
      match Session.eraseFlash P.part progress (P.session.noted (image.sumNotices mode)) with
      | (.error failure, s) => (.error failure,
          { P with session := s.noted [.failedWhile Stage.erasing.name], stage := .failed })
      | (.ok (), s) =>
        match Session.programFlash P.part plan progress s with
        | (.error failure, s') => (.error failure.whileFlashing,
            { P with session := s'.noted [.failedWhile Stage.programming.name], stage := .failed })
        | (.ok (), s') =>
          match (if verify then Session.verifyFlash P.part plan.data progress else pure ()) s' with
          | (.error failure, s'') => (.error failure,
              { P with session := s''.noted [.failedWhile Stage.verifying.name], stage := .failed })
          | (.ok (), s'') => (.ok (), { P with session := s'', stage := .done }) := by
  rw [flash, operation_apply]
  simp only [run_bind, run_get, onSession_apply, Session.forM_notify, made, Session.ofExcept,
    Session.pure_apply, enterStage_apply]
  rcases Session.eraseFlash P.part progress (P.session.noted (image.sumNotices mode)) with
    ⟨failure | _, s⟩
  · rfl
  dsimp only [Session.whileFlashing]
  rcases Session.programFlash P.part plan progress s with ⟨failure | _, s'⟩
  · rfl
  cases verify with
  | false => rfl
  | true =>
    simp only [↓reduceIte, run_bind, enterStage_apply, onSession_apply]
    rcases Session.verifyFlash P.part plan.data progress s' with ⟨failure | _, s''⟩
    · rfl
    · rfl

theorem flash_of_error (refused : Plan.make P.part image mode = .error failure) :
    flash image mode verify progress P = (.error failure, { P with
      session := (P.session.noted (image.sumNotices mode)).noted
        [.failedWhile Stage.validating.name]
      stage := .failed }) := by
  rw [flash, operation_apply]
  simp only [run_bind, run_get, onSession_apply, Session.forM_notify, refused, Session.ofExcept,
    run_throw]

/-- A failure of programming an image has struck in some stage, and says in which. -/
theorem flash_of_struck (struck : Struck image mode verify progress P stage cause) :
    ∃ session : Session δ, flash image mode verify progress P = (.error (mark stage cause),
      { P with session := session.noted [.failedWhile stage.name], stage := .failed }) := by
  cases struck with
  | validating refused => exact ⟨_, flash_of_error refused⟩
  | @erasing plan _ made failed =>
    rcases erased : Session.eraseFlash P.part progress (P.session.noted (image.sumNotices mode))
      with ⟨f | _, s⟩
    · rw [erased] at failed
      cases failed
      exact ⟨s, by rw [flash_of_make made, erased]; rfl⟩
    · rw [erased] at failed
      cases failed
  | @programming plan s _ made erased failed =>
    rcases programmed : Session.programFlash P.part plan progress s with ⟨f | _, s'⟩
    · rw [programmed] at failed
      cases failed
      refine ⟨s', ?_⟩
      simp only [flash_of_make made, erased, programmed]
      rfl
    · rw [programmed] at failed
      cases failed
  | @verifying plan s s' _ made erased programmed verifies failed =>
    subst verifies
    rcases verified : Session.verifyFlash P.part plan.data progress s' with ⟨f | _, s''⟩
    · rw [verified] at failed
      cases failed
      refine ⟨s'', ?_⟩
      simp only [flash_of_make made, erased, programmed, ↓reduceIte, verified]
      rfl
    · rw [verified] at failed
      cases failed

theorem struck_of_flash (failed : (flash image mode verify progress P).1 = .error failure) :
    ∃ stage cause, Struck image mode verify progress P stage cause := by
  cases made : Plan.make P.part image mode with
  | error refusal => exact ⟨_, _, .validating made⟩
  | ok plan =>
    rcases erased : Session.eraseFlash P.part progress (P.session.noted (image.sumNotices mode))
      with ⟨f | _, s⟩
    · exact ⟨_, _, .erasing made (congrArg Prod.fst erased)⟩
    rcases programmed : Session.programFlash P.part plan progress s with ⟨f | _, s'⟩
    · exact ⟨_, _, .programming made erased (congrArg Prod.fst programmed)⟩
    simp only [flash_of_make made, erased, programmed] at failed
    cases verify with
    | false => cases failed
    | true =>
      rcases verified : Session.verifyFlash P.part plan.data progress s' with ⟨f | _, s''⟩
      · exact ⟨_, _, .verifying made erased programmed rfl (congrArg Prod.fst verified)⟩
      · simp only [↓reduceIte, verified] at failed
        cases failed

theorem flash_eq_error : (flash image mode verify progress P).1 = .error failure ↔
    ∃ stage cause, Struck image mode verify progress P stage cause ∧
      failure = mark stage cause := by
  constructor
  · intro failed
    obtain ⟨stage, cause, struck⟩ := struck_of_flash failed
    obtain ⟨session, run⟩ := flash_of_struck struck
    rw [run] at failed
    exact ⟨stage, cause, struck, (Except.error.inj failed).symm⟩
  · rintro ⟨stage, cause, struck, rfl⟩
    obtain ⟨session, run⟩ := flash_of_struck struck
    rw [run]

end

end Programmer

/-- Failures of the line, marked or not. -/
def Failure.isOfLine : Failure → Prop
  | .connecting _ | .flashing _ => True
  | _ => False

theorem Plan.not_isOfLine_of_make {part : Part} {image : Image} {mode : UserCode}
    {failure : Failure} (refused : make part image mode = .error failure) :
    ¬ failure.isOfLine := by
  rw [make_eq] at refused
  cases objected : objection part image mode with
  | none =>
    rw [objected] at refused
    cases refused
  | some f =>
    rw [objected] at refused
    cases refused
    rw [objection, Option.map_eq_some_iff] at objected
    obtain ⟨check, found, rfl⟩ := objected
    have listed := List.mem_of_find?_eq_some found
    simp only [checks, List.mem_cons, List.not_mem_nil, or_false] at listed
    rcases listed with rfl | rfl | rfl | rfl | rfl | rfl | rfl
    all_goals exact id

namespace Programmer

theorem mark_eq_flashing {stage : Stage} {cause : Failure} {fault : LinkFault}
    (unmarked : ∀ fault, cause ≠ .flashing fault) :
    mark stage cause = .flashing fault ↔ stage = .programming ∧ cause = .connecting fault := by
  constructor
  · intro marked
    cases stage with
    | programming =>
      cases cause with
      | connecting fault' =>
        cases marked
        exact ⟨rfl, rfl⟩
      | _ => exact absurd marked (unmarked fault)
    | _ => exact absurd marked (unmarked fault)
  · rintro ⟨rfl, rfl⟩
    rfl

theorem mark_eq_connecting {stage : Stage} {cause : Failure} {fault : LinkFault} :
    mark stage cause = .connecting fault ↔ stage ≠ .programming ∧ cause = .connecting fault := by
  constructor
  · intro unmarked
    cases stage with
    | programming => cases cause <;> cases unmarked
    | _ => exact ⟨nofun, unmarked⟩
  · rintro ⟨other, rfl⟩
    cases stage with
    | programming => exact absurd rfl other
    | _ => rfl

theorem isOfLine_mark {stage : Stage} {cause : Failure} :
    (mark stage cause).isOfLine ↔ cause.isOfLine := by
  cases stage with
  | programming => cases cause <;> exact Iff.rfl
  | _ => exact Iff.rfl

theorem mark_of_not_isOfLine {stage : Stage} {cause : Failure} (other : ¬ cause.isOfLine) :
    mark stage cause = cause := by
  cases stage with
  | programming =>
    cases cause with
    | connecting fault => exact absurd trivial other
    | _ => rfl
  | _ => rfl

theorem Struck.unmarked [Transport δ] {image : Image} {mode : UserCode} {verify progress : Bool}
    {P : Programmer δ} {stage : Stage} {cause : Failure}
    (struck : Struck image mode verify progress P stage cause) (fault : LinkFault) :
    cause ≠ .flashing fault := by
  cases struck with
  | validating refused =>
    rintro rfl
    exact Plan.not_isOfLine_of_make refused trivial
  | erasing made failed => exact Session.unmarked_eraseFlash _ _ (Prod.ext failed rfl) fault
  | programming made erased failed =>
    exact Session.unmarked_programFlash _ _ _ (Prod.ext failed rfl) fault
  | verifying made erased programmed verifies failed =>
    exact Session.unmarked_verifyFlash _ _ _ (Prod.ext failed rfl) fault

end Programmer

/-! ## Stages -/

/-- The stages between operations. -/
def Stage.atRest : Stage → Prop
  | .idle | .done | .failed => True
  | _ => False

/-- The stage behind an operation, by what came of it and the stage before. -/
def ProgrammerCall.stageAfter {β : Type} : ProgrammerCall β → β → Stage → Stage
  | .erase _, result, _ | .flash .., result, _ => if result.isOk then .done else .failed
  | _, _, before => before

section

variable [Transport δ]

omit [Transport δ] in
theorem Programmer.stage_operation (first : Stage) (action : ProgrammerM δ α)
    (P : Programmer δ) : (operation first action P).2.stage =
      if (operation first action P).1.isOk then .done else .failed := by
  rw [operation_apply]
  rcases action { P with stage := first } with ⟨failure | a, P'⟩
  · rfl
  · rfl

theorem ProgrammerCall.stage_run (call : ProgrammerCall α) (P : Programmer δ) :
    (call.run P).2.stage = call.stageAfter (call.run P).1 P.stage := by
  cases call with
  | erase progress => exact Programmer.stage_operation _ _ P
  | flash image mode verify progress => exact Programmer.stage_operation _ _ P
  | dump sink progress =>
    have read : (Programmer.readFlash progress P).2.stage = P.stage := rfl
    show (Programmer.dump sink progress P).2.stage = P.stage
    unfold Programmer.dump
    rcases run : Programmer.readFlash progress P with ⟨failure | data, P'⟩
    · rw [run] at read
      exact read
    · rw [run] at read
      dsimp only
      split
      · exact read
      · exact read
  | _ => rfl

/-- One operation, from rest to rest. -/
theorem ProgrammerCall.atRest_run (call : ProgrammerCall α) {P : Programmer δ}
    (rests : P.stage.atRest) : (call.run P).2.stage.atRest := by
  have ended (ok : Bool) : Stage.atRest (if ok then .done else .failed) := by
    cases ok with
    | true => trivial
    | false => trivial
  rw [call.stage_run]
  cases call with
  | erase progress => exact ended _
  | flash image mode verify progress => exact ended _
  | _ => exact rests

/-- A whole job, one operation after the other. -/
theorem Job.atRest_run (job : Job α) {P : Programmer δ} (rests : P.stage.atRest) :
    (job.run P).2.stage.atRest := by
  induction job generalizing P with
  | done a => exact rests
  | call c next ih => exact ih _ (c.atRest_run rests)
  | talk t next ih => exact ih _ rests
  | adopt part next ih => exact ih trivial
  | reopen settings next ih => exact ih rests

namespace Programmer

theorem erase_result (progress : Bool) (P : Programmer δ) :
    (erase progress P).1 = (Session.eraseFlash P.part progress P.session).1 := by
  rw [erase, operation_apply]
  simp only [run_bind, run_get, onSession_apply]
  rcases Session.eraseFlash P.part progress P.session with ⟨failure | _, s⟩
  · rfl
  · rfl

/-- **Stages tell outcomes, and marks tell stages.** Through every job, a programmer is at rest
    between operations, and only operations on the flash move it, to `done` or `failed` by what
    comes of them. A fault of the line is marked exactly when it struck in programming, whichever
    it is; and whatever else strikes is told as it is. -/
theorem stages_and_marks :
    (∀ {β : Type} (job : Job β) (session : Session δ) (part : Part),
      (job.run { session, part }).2.stage.atRest) ∧
    (∀ {β : Type} (call : ProgrammerCall β) (P : Programmer δ),
      (call.run P).2.stage = call.stageAfter (call.run P).1 P.stage) ∧
    (∀ (progress : Bool) (P : Programmer δ),
      (erase progress P).1 = (Session.eraseFlash P.part progress P.session).1 ∧
        ∀ fault, (erase progress P).1 ≠ .error (.flashing fault)) ∧
    ∀ (image : Image) (mode : UserCode) (verify progress : Bool) (P : Programmer δ),
      let run := flash image mode verify progress P
      let struck := Struck image mode verify progress P
      (∀ fault, run.1 = .error (.flashing fault) ↔ struck .programming (.connecting fault)) ∧
      (∀ fault, run.1 = .error (.connecting fault) ↔
        struck .erasing (.connecting fault) ∨ struck .verifying (.connecting fault)) ∧
      (∀ failure, ¬ failure.isOfLine →
        (run.1 = .error failure ↔ ∃ stage, struck stage failure)) ∧
      ∀ stage cause, struck stage cause →
        run.2.session.journal.notices.back? = some (.failedWhile stage.name) := by
  refine ⟨fun job session part => job.atRest_run trivial, fun call P => call.stage_run P,
    fun progress P => ⟨erase_result progress P, fun fault marked => ?_⟩,
    fun image mode verify progress P => ?_⟩
  · rw [erase_result] at marked
    exact Session.unmarked_eraseFlash _ _ (Prod.ext marked rfl) fault rfl
  intro run struck
  refine ⟨fun fault => flash_eq_error.trans ?_, fun fault => flash_eq_error.trans ?_,
    fun failure other => flash_eq_error.trans ?_, fun stage cause here => ?_⟩
  · constructor
    · rintro ⟨stage, cause, here, marked⟩
      obtain ⟨rfl, rfl⟩ := (mark_eq_flashing here.unmarked).mp marked.symm
      exact here
    · intro here
      exact ⟨.programming, _, here, rfl⟩
  · constructor
    · rintro ⟨stage, cause, here, plain⟩
      obtain ⟨other, rfl⟩ := mark_eq_connecting.mp plain.symm
      -- before the device is touched, no fault of the line can strike
      cases here with
      | validating refused => exact absurd trivial (Plan.not_isOfLine_of_make refused)
      | erasing made failed => exact .inl (.erasing made failed)
      | programming => exact absurd rfl other
      | verifying made erased programmed verifies failed =>
        exact .inr (.verifying made erased programmed verifies failed)
    · rintro (here | here)
      · exact ⟨.erasing, _, here, rfl⟩
      · exact ⟨.verifying, _, here, rfl⟩
  · constructor
    · rintro ⟨stage, cause, here, same⟩
      rw [same, isOfLine_mark] at other
      rw [same, mark_of_not_isOfLine other]
      exact ⟨stage, here⟩
    · rintro ⟨stage, here⟩
      exact ⟨stage, failure, here, (mark_of_not_isOfLine other).symm⟩
  · obtain ⟨session, ended⟩ := flash_of_struck here
    rw [show run = _ from ended]
    simp [Session.noted]

/-- The rehearsal, but for a line that fails when the first sector is to be written. -/
def cutOff : Programmer Scripted :=
  { rehearsal with session.device.writeFaults := [(5, .system .timedOut "injected")] }

/-- The rehearsal, but for a sector that is still protected then. -/
def locked : Programmer Scripted :=
  { rehearsal with session.device.replies :=
      ["0\r\n", "8\r\n0\r\n170\r\n", "0\r\n", "0\r\n", "0\r\n", "9\r\n"].map Bytes.ascii }

/-- In the one run the fault is marked, and in the other the failure is not one to be marked. -/
theorem stages_and_marks_cutOff :
    let fault : LinkFault := .timeout (some .prepareForWrite)
    let refusal : Failure := .refused .prepareForWrite (.ofValue 9)
    let image : Image := ⟨[1, 2, 3]⟩
    ((flash image .compute true false cutOff).1 = .error (.flashing fault) ∧
      Struck image .compute true false cutOff .programming (.connecting fault) ∧
      (flash image .compute true false cutOff).2.session.journal.notices.back? =
        some (.failedWhile "programming") ∧
      (flash image .compute true false cutOff).2.stage = .failed) ∧
    ¬ refusal.isOfLine ∧ (flash image .compute true false locked).1 = .error refusal ∧
      ∃ stage, Struck image .compute true false locked stage refusal := by
  intro fault refusal image
  obtain ⟨-, stages, -, flashes⟩ := stages_and_marks (δ := Scripted)
  obtain ⟨marked, -, -, told⟩ := flashes image .compute true false cutOff
  obtain ⟨-, -, others, -⟩ := flashes image .compute true false locked
  have failed : (flash image .compute true false cutOff).1 = .error (.flashing fault) := by
    decide +kernel
  have refused : (flash image .compute true false locked).1 = .error refusal := by
    decide +kernel
  have struck := (marked fault).mp failed
  have failedStage := stages (.flash image .compute true false) cutOff
  have ended : ((ProgrammerCall.flash image .compute true false).run cutOff).1 =
      .error (.flashing fault) := failed
  rw [ended] at failedStage
  exact ⟨⟨failed, struck, told _ _ struck, failedStage⟩, id, refused, (others _ id).mp refused⟩

end Programmer

end

end SerialIsp
