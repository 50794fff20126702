import SerialIsp.Proofs.Transfer.Log
import SerialIsp.Proofs.Schedule

/-!
# What reading memory can come to

The transport may be as hostile as it likes. A read of memory that succeeds brings exactly the
bytes that were asked for, and every attempt it made is in its log. So a short read, which
three operations check for, never happens, and neither does a difference in length when what
was programmed is read back.
-/

namespace SerialIsp

open Wire

variable {δ α β : Type}

/-! ## Counting -/

/-- Whole lines fill whole blocks, so blocks can be counted by their bytes. -/
theorem blockCount_eq (n : Nat) : blockCount n = (n + 899) / 900 := by
  unfold blockCount lineCapacity linesPerBlock
  omega

namespace AllHeard

variable {left : Nat} {ds : List Delivery} {input rest : Bytes}

theorem length_add_missing (h : AllHeard left ds input rest) :
    (ds.flatMap Delivery.content).length + (left - ds.length * blockCapacity) = left := by
  induction ds generalizing left input with
  | nil =>
    rw [List.flatMap_nil, List.length_nil, List.length_nil, Nat.zero_mul]
    omega
  | cons d ds ih =>
    obtain ⟨some, between, heard, later⟩ := h
    have first : d.content.length = min left blockCapacity := heard.2.1.2.1
    have rest := ih later
    rw [List.flatMap_cons, List.length_append, List.length_cons, first]
    rw [blockCapacity_eq] at *
    omega

theorem length_le (h : AllHeard left ds input rest) : ds.length ≤ blockCount left := by
  induction ds generalizing left input with
  | nil => exact Nat.zero_le _
  | cons d ds ih =>
    obtain ⟨some, between, heard, later⟩ := h
    have rest := ih later
    rw [blockCount_eq, blockCapacity_eq] at *
    rw [List.length_cons]
    omega

/-- A block that is delivered takes four attempts at most. -/
theorem attempts_le (h : AllHeard left ds input rest) :
    (ds.flatMap Delivery.attempts).length ≤ (maxResends + 1) * ds.length := by
  induction ds generalizing left input with
  | nil => exact Nat.le_refl _
  | cons d ds ih =>
    obtain ⟨some, between, heard, later⟩ := h
    have rest := ih later
    have few := heard.1
    rw [List.flatMap_cons, List.length_append, Delivery.attempts, List.length_append,
      List.length_singleton, List.length_cons, Nat.mul_succ]
    omega

end AllHeard

namespace TransferLog

variable {log : TransferLog} {left : Nat} {input rest : Bytes}

theorem Tells.length_data (tells : log.Tells left input rest) (all : log.missing left = 0) :
    log.data.length = left := by
  obtain ⟨between, heard, -⟩ := tells.heard
  have sum := heard.length_add_missing
  rwa [← missing, all, Nat.add_zero] at sum

theorem Tells.length_delivered (tells : log.Tells left input rest)
    (all : log.missing left = 0) : log.delivered.length = blockCount left := by
  obtain ⟨between, heard, -⟩ := tells.heard
  have most := heard.length_le
  rw [missing, blockCapacity_eq] at all
  rw [blockCount_eq] at *
  omega

theorem length_delivered_lt (some : 0 < log.missing left) :
    log.delivered.length < blockCount left := by
  rw [missing, blockCapacity_eq] at some
  rw [blockCount_eq]
  omega

/-- No block takes more than four attempts. -/
theorem Tells.attempts_le (tells : log.Tells left input rest) :
    log.attempts.length ≤ (maxResends + 1) * blockCount left := by
  obtain ⟨between, heard, -⟩ := tells.heard
  have delivered := heard.attempts_le
  have last := tells.atMost
  rw [attempts, List.length_append]
  rcases Nat.eq_zero_or_pos (log.missing left) with all | some
  · rw [tells.needed all, ← tells.length_delivered all]
    exact delivered
  · have more := Nat.mul_le_mul_left (maxResends + 1) (length_delivered_lt some)
    rw [Nat.mul_succ] at more
    omega

end TransferLog

/-! ## Reading memory -/

/-- The failures of a command: its arguments, its status, and the line. -/
def Failure.isOfCommand : Failure → Prop
  | .misaligned .. | .refused .. | .connecting _ | .jumpAddress _ => True
  | _ => False

theorem Failure.isOfCommand.of_isGarbled {failure : Failure} (h : failure.isGarbled) :
    failure.isOfCommand := by
  cases failure with
  | connecting fault => trivial
  | _ => exact h.elim

namespace Dialogue

theorem checkAlignment_failsOnly (operand : Operand) (value alignment : UInt32) :
    FailsOnly Failure.isOfCommand (ofExcept (checkAlignment operand value alignment)) := by
  unfold checkAlignment
  split
  · exact failsOnly_fail trivial
  · exact .pure ()

theorem commandStatus_failsOnly (c : Command) : FailsOnly Failure.isGarbled (commandStatus c) :=
  (failsOnly_say _).bind fun _ => listening_status.garbled

/-- A command fails with its reply, or with the status in it. -/
theorem command_refuses (c : Command) :
    FailsOnly (fun failure => failure.isGarbled ∨ ∃ status, failure = .refused c.kind status)
      (command c) := by
  refine .bind ((commandStatus_failsOnly c).mono fun _ => .inl) fun status => ?_
  split
  · exact .pure ()
  · exact failsOnly_fail (.inr ⟨status, rfl⟩)

theorem command_failsOnly (c : Command) : FailsOnly Failure.isOfCommand (command c) := by
  refine (command_refuses c).mono fun failure h => ?_
  rcases h with garbled | ⟨status, rfl⟩
  · exact .of_isGarbled garbled
  · trivial

/-- What comes before a transfer: the arguments are checked, and the command is exchanged. -/
def opening (address count : UInt32) : Dialogue Unit := do
  ofExcept (checkAlignment .address address 4)
  ofExcept (checkAlignment .byteCount count 4)
  command (.readMemory address count)

theorem readMemory_eq (address count : UInt32) (encoding : Encoding) :
    readMemory address count encoding = (do
      opening address count
      transfer count.toNat encoding) := by
  rw [opening, bind_assoc, bind_assoc]
  cases encoding <;> rfl

theorem opening_failsOnly (address count : UInt32) :
    FailsOnly Failure.isOfCommand (opening address count) :=
  (checkAlignment_failsOnly ..).bind fun _ => (checkAlignment_failsOnly ..).bind fun _ =>
    command_failsOnly _

/-- Where the arguments are in order, an opening is its command. -/
theorem opening_cases (address count : UInt32) :
    opening address count = command (.readMemory address count) ∨
      ∃ failure, opening address count = fail failure := by
  unfold opening checkAlignment
  split
  · exact .inr ⟨_, rfl⟩
  · split
    · exact .inr ⟨_, rfl⟩
    · exact .inl rfl

theorem said_opening (address count : UInt32) (input : Bytes) :
    (opening address count input).said = [] ∨
      (opening address count input).said = [(Command.readMemory address count).line] := by
  rcases opening_cases address count with opens | ⟨failure, fails⟩
  · rw [opens]
    exact .inr (said_command ..)
  · rw [fails]
    exact .inl rfl

theorem opening_done {address count : UInt32} {input stream : Bytes}
    (h : (opening address count input).close = .done () stream) :
    (opening address count input).said = [(Command.readMemory address count).line] ∧
      (status input).close = .done (.known .cmdSuccess) stream := by
  rcases opening_cases address count with opens | ⟨failure, fails⟩
  · rw [opens] at h ⊢
    exact ⟨said_command .., command_done h⟩
  · rw [fails] at h
    cases h

/-- A transfer fails with a garbled reply, or with a block that was sent four times in vain. -/
theorem transfer_failsOnly (count : Nat) (encoding : Encoding) :
    FailsOnly (fun failure => failure.isGarbled ∨
        ∃ block < blockCount count, failure = .corruptBlock block (maxResends + 1))
      (transfer count encoding) := by
  cases encoding with
  | raw => exact (listening_take _).garbled.mono fun _ => .inl
  | lines =>
    intro input failure rest ending
    obtain ⟨log, rest', tells, -, ends⟩ := readBlocks_log 0 count input
    rw [show (readBlocksFrom 0 count input).close = _ from ending] at ends
    cases ends with
    | givenUp some all =>
      rw [Nat.zero_add]
      exact .inr ⟨_, TransferLog.length_delivered_lt some, rfl⟩

/-- **How a read of memory can fail**: with its command, or with a block that was sent four
    times in vain. -/
theorem readMemory_failsOnly (address count : UInt32) (encoding : Encoding) :
    FailsOnly (fun failure => failure.isOfCommand ∨
        ∃ block < blockCount count.toNat, failure = .corruptBlock block (maxResends + 1))
      (readMemory address count encoding) := by
  rw [readMemory_eq]
  refine ((opening_failsOnly address count).mono fun _ => .inl).bind fun _ => ?_
  exact (transfer_failsOnly _ encoding).mono fun _ => .imp_left .of_isGarbled

/-- **The course of a read of memory in lines**, and the log of what was heard in it. Once the
    opening has come to its end, the log tells all of it; without that, there is nothing to
    tell. -/
structure ReadsLines (address count : UInt32) (input : Bytes) (log : TransferLog)
    (course : Course Bytes) : Prop where
  heard : (log = ⟨[], []⟩ ∧ ∀ stream, (opening address count input).close ≠ .done () stream) ∨
    ∃ stream rest close, (opening address count input).close = .done () stream ∧
      log.Tells count.toNat stream rest ∧ log.Ends 0 count.toNat rest close
  said : course.said = [] ∨ course.said = (Command.readMemory address count).line :: log.answers
  complete : ∀ {data rest}, course.close = .done data rest → data = log.data ∧
    log.delivered.length = blockCount count.toNat ∧ log.refused = [] ∧
    course.said = (Command.readMemory address count).line :: log.answers
  givenUp : ∀ {block attempts rest}, course.close = .failed (.corruptBlock block attempts) rest →
    block = log.delivered.length ∧ attempts = log.refused.length ∧
    course.said = (Command.readMemory address count).line :: log.answers

theorem ReadsLines.of_command {address count : UInt32} {input : Bytes} {course : Course Bytes}
    (unopened : ∀ stream, (opening address count input).close ≠ .done () stream)
    (said : course.said = [] ∨ course.said = [(Command.readMemory address count).line])
    (fails : ∀ result rest, course.close = .ofResult result rest →
      ∃ failure, result = .error failure ∧ failure.isOfCommand) :
    ReadsLines address count input ⟨[], []⟩ course where
  heard := .inl ⟨rfl, unopened⟩
  said := said
  complete done := by
    obtain ⟨failure, failed, -⟩ := fails (.ok _) _ done
    cases failed
  givenUp failed := by
    obtain ⟨failure, same, ofCommand⟩ := fails (.error _) _ failed
    cases same
    exact ofCommand.elim

theorem readMemory_readsLines (address count : UInt32) (input : Bytes) :
    ∃ log, ReadsLines address count input log (readMemory address count .lines input) := by
  rw [readMemory_eq]
  have said := said_opening address count input
  rcases opened : opening address count input with ⟨first, ⟨⟨⟩, stream⟩ | ⟨failure, rest⟩ | _⟩
  all_goals rw [opened] at said
  · have ended := congrArg Course.close opened
    have hfirst := (opening_done ended).1
    obtain rfl : first = [(Command.readMemory address count).line] := by rwa [opened] at hfirst
    obtain ⟨log, rest, tells, answers, ends⟩ := readBlocks_log 0 count.toNat stream
    have all : [(Command.readMemory address count).line] ++
        (transfer count.toNat .lines stream).said =
          (Command.readMemory address count).line :: log.answers := congrArg _ answers
    rw [bind_done opened]
    refine ⟨log, .inr ⟨stream, rest, _, ended, tells, ends⟩, .inr all, fun done => ?_,
      fun failed => ?_⟩
    · rw [show (readBlocksFrom 0 count.toNat stream).close = _ from done] at ends
      cases ends with
      | complete none => exact ⟨rfl, tells.length_delivered none, tells.needed none, all⟩
    · rw [show (readBlocksFrom 0 count.toNat stream).close = _ from failed] at ends
      cases ends with
      | givenUp some four => exact ⟨Nat.zero_add _, four.symm, all⟩
  · rw [bind_failed opened]
    have ofCommand := opening_failsOnly address count (congrArg Course.close opened)
    have unopened : ∀ stream, (opening address count input).close ≠ .done () stream := by
      rw [opened]
      exact nofun
    refine ⟨_, .of_command unopened said fun result rest' ending => ?_⟩
    cases result with
    | ok data => cases ending
    | error f =>
      cases ending
      exact ⟨_, rfl, ofCommand⟩
  · have unopened : ∀ stream, (opening address count input).close ≠ .done () stream := by
      rw [opened]
      exact nofun
    rw [bind_waiting (by rw [opened]), opened]
    refine ⟨_, .of_command unopened said fun result rest' ending => ?_⟩
    cases result <;> cases ending

theorem length_of_readMemory {address count : UInt32} {encoding : Encoding} {input rest : Bytes}
    {said : List Bytes} {data : Bytes}
    (h : readMemory address count encoding input = ⟨said, .done data rest⟩) :
    data.length = count.toNat := by
  rw [readMemory_eq] at h
  obtain ⟨⟨⟩, -, stream, second, -, transferred, -⟩ := bind_eq_done h
  cases encoding with
  | raw =>
    rcases Nat.lt_or_ge stream.length count.toNat with short | enough
    · rw [transfer, take_of_lt short] at transferred
      cases transferred
    · rw [transfer, take_of_le enough] at transferred
      cases transferred
      exact List.length_take_of_le enough
  | lines =>
    obtain ⟨log, rest', tells, -, ends⟩ := readBlocks_log 0 count.toNat stream
    rw [show (readBlocksFrom 0 count.toNat stream).close = _ from
      congrArg Course.close transferred] at ends
    cases ends with
    | complete all => exact tells.length_data all

end Dialogue

/-! ## Runs -/

/-- Where a write is the last call and was not taken, less may have been written than is due. -/
theorem Broken.waits_or_cut {p : Dialogue α} {before : Bytes} {cs : List Call}
    {r : Except Failure α} (broken : Broken p before cs r) :
    p (before ++ received cs) = ⟨sent cs, .waiting⟩ ∨
      ∃ pre b outcome, cs = pre ++ [.write b outcome] ∧ ¬ (Call.write b outcome).full := by
  rcases broken.waits with ⟨pre, b, outcome, rfl⟩ | waits
  · obtain ⟨pre', c, same, -, short⟩ := broken.last
    obtain ⟨rfl, hc⟩ := List.append_inj' same rfl
    obtain rfl := List.singleton_inj.mp hc
    exact .inr ⟨pre, b, outcome, rfl, short⟩
  · exact .inl waits

/-- A dialogue that fails at once uses nothing of what is heard. -/
theorem heard_of_fail {failure : Failure} {before after : Bytes} {cs : List Call}
    {r : Except Failure α}
    (ending : Settled (Dialogue.fail failure) before cs r after ∨
      Broken (Dialogue.fail failure) before cs r) : before ++ received cs = after := by
  rcases ending with settled | broken
  · have ended := congrArg Course.close settled.ended
    cases r with
    | ok a => exact nomatch ended
    | error f => exact (Close.failed.inj ended).2
  · rcases broken.waits with ⟨pre, b, outcome, rfl⟩ | waits
    · -- it has nothing to say either
      have silent : sent (pre ++ [.write b outcome]) <+: [] := broken.said
      simp at silent
    · exact nomatch congrArg Course.close waits

namespace Session

/-- A read of memory whose command was answered by success has come through its opening. -/
theorem opening_of_answered {address count : UInt32} {encoding : Encoding}
    {run : Except Failure Bytes × Session δ} {before : Bytes} {cs : List Call}
    (ending : Settled (Dialogue.readMemory address count encoding) before cs run.1 (held run.2) ∨
      Broken (Dialogue.readMemory address count encoding) before cs run.1)
    (stream : Bytes)
    (answered : (Dialogue.status (before ++ received cs)).close =
      .done (.known .cmdSuccess) stream) :
    (Dialogue.opening address count (before ++ received cs)).close = .done () stream := by
  rcases Dialogue.opening_cases address count with opens | ⟨failure, fails⟩
  · rw [opens, Dialogue.command_of_answered answered]
  · -- the arguments are refused, and what may be held back is no status
    have refused : Dialogue.readMemory address count encoding = Dialogue.fail failure := by
      rw [Dialogue.readMemory_eq, fails]
      rfl
    rw [refused] at ending
    have waits := Dialogue.status_waits (length_held run.2)
    rw [← heard_of_fail ending, answered] at waits
    cases waits

variable [Transport δ]

/-- **A run of a read of memory in lines**, with the calls it made and the log of what it
    heard. Once the command was answered by success, the log tells all of it; without that,
    there is nothing to tell. -/
structure ReadsLines (address count : UInt32) (s : Session δ)
    (run : Except Failure Bytes × Session δ) (cs : List Call) (log : TransferLog) : Prop where
  made : calls run.2 = calls s ++ cs
  heard : (log = ⟨[], []⟩ ∧ ∀ stream,
      (Dialogue.status (held s ++ received cs)).close ≠ .done (.known .cmdSuccess) stream) ∨
    ∃ stream rest close,
      (Dialogue.status (held s ++ received cs)).close = .done (.known .cmdSuccess) stream ∧
      log.Tells count.toNat stream rest ∧ log.Ends 0 count.toNat rest close
  few : log.attempts.length ≤ (maxResends + 1) * blockCount count.toNat
  wrote : sent cs <+: (Command.readMemory address count).line :: log.answers
  /-- Only a write that was not taken cuts the answers short. -/
  wroteAll : sent cs = [] ∨ sent cs = (Command.readMemory address count).line :: log.answers ∨
    ∃ pre b outcome, cs = pre ++ [.write b outcome] ∧ ¬ (Call.write b outcome).full
  complete : ∀ data, run.1 = .ok data → data = log.data ∧
    log.delivered.length = blockCount count.toNat ∧ log.refused = [] ∧
    sent cs = (Command.readMemory address count).line :: log.answers
  givenUp : ∀ block attempts, run.1 = .error (.corruptBlock block attempts) →
    block = log.delivered.length ∧ attempts = log.refused.length ∧
    sent cs = (Command.readMemory address count).line :: log.answers

theorem readMemory_readsLines (address count : UInt32) (progress : Bool) (s : Session δ) :
    ∃ cs log, ReadsLines address count s (readMemory address count .lines progress s) cs log := by
  obtain ⟨cs, made, -, ending⟩ := readMemory_follows address count .lines progress s
  have opened := opening_of_answered ending
  generalize readMemory address count .lines progress s = run at made ending ⊢
  obtain ⟨log, course⟩ :=
    Dialogue.readMemory_readsLines address count (held s ++ received cs)
  -- what is known of the course holds of the run, since a success and a block that was given up
  -- are no breaks of the line
  refine ⟨cs, log, made, ?_, ?_, ?_, ?_, fun data ok => ?_, fun block attempts failed => ?_⟩
  · rcases course.heard with ⟨none, unopened⟩ | ⟨stream, rest, close, ended, heard⟩
    · exact .inl ⟨none, fun stream answered => unopened stream (opened stream answered)⟩
    · exact .inr ⟨stream, rest, close, (Dialogue.opening_done ended).2, heard⟩
  · rcases course.heard with ⟨rfl, -⟩ | ⟨stream, rest, close, -, tells, -⟩
    · exact Nat.zero_le _
    · exact tells.attempts_le
  · have due : sent cs <+:
        (Dialogue.readMemory address count .lines (held s ++ received cs)).said :=
      sent_prefix_said ending
    rcases course.said with said | said
    · rw [said, List.prefix_nil] at due
      rw [due]
      exact List.nil_prefix
    · rwa [said] at due
  · rcases ending with settled | broken
    · rw [settled.ended] at course
      exact course.said.imp_right .inl
    · rcases broken.waits_or_cut with waits | cut
      · rw [waits] at course
        exact course.said.imp_right .inl
      · exact .inr (.inr cut)
  · have settled := Settled.of_unbroken ending fun _ failed => nomatch ok.symm.trans failed
    rw [settled.ended, ok] at course
    exact course.complete rfl
  · have settled := Settled.of_unbroken ending fun failure same isBreak => by
      cases failed.symm.trans same
      exact isBreak
    rw [settled.ended, failed] at course
    exact course.givenUp rfl

theorem length_of_readMemory {address count : UInt32} {encoding : Encoding} {progress : Bool}
    {s s' : Session δ} {data : Bytes}
    (run : readMemory address count encoding progress s = (.ok data, s')) :
    data.length = count.toNat := by
  obtain ⟨cs, -, -, ending⟩ := readMemory_follows address count encoding progress s
  rw [run] at ending
  exact Dialogue.length_of_readMemory (Settled.of_unbroken ending nofun).ended

/-- How a run of a read of memory can fail: through the transport, or as its dialogue does. -/
theorem readMemory_failsAs (address count : UInt32) (encoding : Encoding) (progress : Bool) :
    FailsAs (fun failure => failure.isBreak ∨ failure.isOfCommand ∨
        ∃ block < blockCount count.toNat, failure = .corruptBlock block (maxResends + 1))
      (readMemory address count encoding progress : SessionM δ Bytes) :=
  (readMemory_follows address count encoding progress).failsAs
    (Dialogue.readMemory_failsOnly address count encoding)

end Session

/-! ## No short reads -/

/-- A read of memory that brought too little. -/
def Failure.isShort : Failure → Prop
  | .shortRead .. => True
  | _ => False

theorem Failure.not_isShort_of_isBreak {failure : Failure} (h : failure.isBreak) :
    ¬ failure.isShort := by
  intro short
  cases failure with
  | shortRead expected arrived => exact h
  | _ => exact short

theorem Failure.not_isShort_of_isOfCommand {failure : Failure} (h : failure.isOfCommand) :
    ¬ failure.isShort := by
  intro short
  cases failure with
  | shortRead expected arrived => exact h
  | _ => exact short

namespace Session

variable [Transport δ]

theorem readMemory_not_short (address count : UInt32) (encoding : Encoding) (progress : Bool) :
    FailsAs (¬ ·.isShort) (readMemory address count encoding progress : SessionM δ Bytes) := by
  intro s failure s' failed
  rcases readMemory_failsAs address count encoding progress failed with
    isBreak | ofCommand | ⟨block, -, rfl⟩
  · exact Failure.not_isShort_of_isBreak isBreak
  · exact Failure.not_isShort_of_isOfCommand ofCommand
  · exact id

theorem command_not_short (c : Command) :
    FailsAs (¬ ·.isShort) (command c : SessionM δ Unit) := by
  intro s failure s' failed
  rcases (command_follows c).failsAs (Dialogue.command_failsOnly c) failed with
    isBreak | ofCommand
  · exact Failure.not_isShort_of_isBreak isBreak
  · exact Failure.not_isShort_of_isOfCommand ofCommand

/-- As many bytes come as the flash has. -/
theorem readFlash_not_short (part : Part) (progress : Bool) :
    FailsAs (¬ ·.isShort) (readFlash part progress : SessionM δ Bytes) := by
  refine (readMemory_not_short ..).bind fun data s s' run => ?_
  simp only [length_of_readMemory run, ne_eq, not_true_eq_false, ↓reduceIte]
  exact failsAs_pure data

theorem execute_not_short (part : Part) :
    FailsAs (¬ ·.isShort) (execute part : SessionM δ (UInt32 × ExecutionMode)) := by
  refine (readMemory_not_short ..).bind fun vector s s' run => ?_
  have four : vector.length = 4 := length_of_readMemory run
  simp only [four, ne_eq, not_true_eq_false, ↓reduceIte]
  rcases ExecutionMode.ofEntry (vector.wordAt 0) with ⟨mode, address⟩
  have start : FailsAs (¬ ·.isShort) (go address mode : SessionM δ Unit) := by
    unfold go
    split
    · exact failsAs_throw_bind id _
    · exact command_not_short _
  dsimp only
  split
  · exact failsAs_throw_bind id _
  · refine (command_not_short _).bind fun _ _ _ _ => start.bind fun _ _ _ _ => ?_
    exact (silent_notify _).failsAs.bind fun _ _ _ _ => failsAs_pure _

/-- Reading back without a look at the length of what was read. -/
def compareFlash (part : Part) (data : Bytes) (progress : Bool) : SessionM δ Unit := do
  if data.length ≤ remappedLength then notify .nothingToVerify
  else
    let expected := data.drop remappedLength
    let actual ← readMemory (part.flashBase + remappedLength.toUInt32) expected.length.toUInt32
      part.encoding progress
    match Bytes.firstDifference expected actual with
    | some offset => throw (.verification (remappedLength + offset))
    | none => notify .verified

/-- **What is read back is as long as what was written**, so nothing is lost without the look
    at its length. -/
theorem verifyFlash_eq_compareFlash (part : Part) {data : Bytes} (small : data.length < UInt32.size)
    (progress : Bool) :
    (verifyFlash part data progress : SessionM δ Unit) = compareFlash part data progress := by
  unfold verifyFlash compareFlash
  split
  · rfl
  · funext s
    dsimp only
    rw [bind_apply, bind_apply]
    rcases run : readMemory (part.flashBase + remappedLength.toUInt32)
      (data.drop remappedLength).length.toUInt32 part.encoding progress s with
      ⟨failure | actual, s'⟩
    · rfl
    · have whole : actual.length = (data.drop remappedLength).length := by
        rw [length_of_readMemory run]
        refine UInt32.toNat_ofNat_of_lt' (Nat.lt_of_le_of_lt ?_ small)
        rw [List.length_drop]
        exact Nat.sub_le ..
      dsimp only
      cases Bytes.firstDifference (data.drop remappedLength) actual with
      | some offset => rfl
      | none => exact congrFun (if_neg (not_not_intro whole)) s'

end Session

namespace Programmer

variable [Transport δ]

omit [Transport δ] in
theorem onSession_failsAs {allowed : Failure → Prop} {action : SessionM δ α}
    (h : FailsAs allowed action) : FailsAs allowed (onSession action) := by
  intro P failure P' failed
  have failed' : (action P.session).1 = .error failure := congrArg Prod.fst failed
  exact h (Prod.ext failed' rfl)

theorem readFlash_not_short (progress : Bool) :
    FailsAs (¬ ·.isShort) (readFlash progress : ProgrammerM δ Bytes) := by
  intro P failure P' failed
  exact onSession_failsAs (Session.readFlash_not_short P.part progress) failed

theorem execute_not_short :
    FailsAs (¬ ·.isShort) (execute : ProgrammerM δ (UInt32 × ExecutionMode)) := by
  intro P failure P' failed
  exact onSession_failsAs (Session.execute_not_short P.part) failed

theorem dump_not_short (sink : Sink) (progress : Bool) (P : Programmer δ) {failure : Failure}
    (failed : (dump sink progress P).1.1 = .error failure) : ¬ failure.isShort := by
  rw [dump] at failed
  rcases run : readFlash progress P with ⟨f | data, P'⟩
  · rw [run] at failed
    cases failed
    exact readFlash_not_short progress run
  · rw [run] at failed
    dsimp only at failed
    rcases put : sink.put data with ⟨fault | ⟨⟩, sink'⟩
    · rw [put] at failed
      cases failed
      exact id
    · rw [put] at failed
      cases failed

/-- **Reading is whole or fails.** -/
theorem reading_is_whole :
    -- what was read is as long as it has to be, and a block is given up after four attempts
    (∀ (address count : UInt32) (encoding : Encoding) (progress : Bool) (s : Session δ),
      let run := Session.readMemory address count encoding progress s
      (∀ data, run.1 = .ok data → data.length = count.toNat) ∧
        ∀ block attempts, run.1 = .error (.corruptBlock block attempts) →
          attempts = 4 ∧ block < blockCount count.toNat) ∧
    -- in lines, every block was taken on an attempt that brought it
    (∀ (address count : UInt32) (progress : Bool) (s : Session δ), ∃ cs log,
      Session.ReadsLines address count s (Session.readMemory address count .lines progress s)
        cs log) ∧
    -- so nobody ever finds too little
    (∀ (progress : Bool) (P : Programmer δ) (failure : Failure),
      (readFlash progress P).1 = .error failure → ¬ failure.isShort) ∧
    (∀ (sink : Sink) (progress : Bool) (P : Programmer δ) (failure : Failure),
      (dump sink progress P).1.1 = .error failure → ¬ failure.isShort) ∧
    (∀ (P : Programmer δ) (failure : Failure),
      (execute P).1 = .error failure → ¬ failure.isShort) ∧
    ∀ (part : Part) (image : Image) (mode : UserCode) (plan : Plan) (progress : Bool),
      Plan.make part image mode = .ok plan →
        (Session.verifyFlash part plan.data progress : SessionM δ Unit) =
          Session.compareFlash part plan.data progress := by
  refine ⟨fun address count encoding progress s => ⟨fun data ok => ?_,
      fun block attempts failed => ?_⟩,
    fun address count progress s => Session.readMemory_readsLines address count progress s,
    fun progress P failure failed => ?_,
    fun sink progress P failure => dump_not_short sink progress P,
    fun P failure failed => ?_, fun part image mode plan progress make => ?_⟩
  · exact Session.length_of_readMemory (Prod.ext ok rfl)
  · rcases Session.readMemory_failsAs address count encoding progress (Prod.ext failed rfl) with
      isBreak | ofCommand | ⟨b, small, same⟩
    · exact isBreak.elim
    · exact ofCommand.elim
    · cases same
      exact ⟨rfl, small⟩
  · exact readFlash_not_short progress (Prod.ext failed rfl)
  · exact execute_not_short (Prod.ext failed rfl)
  · have fits := Plan.fits_of_make make
    refine Session.verifyFlash_eq_compareFlash part ?_ progress
    exact Nat.lt_of_le_of_lt fits.inFlash part.flashSize.toNat_lt

/-- A device that sends four bytes with the wrong sum, as often as it is asked. -/
def stubborn : Session Scripted :=
  let attempt := encode [1, 2, 3, 4] ++ Bytes.ascii "11\r\n"
  Session.start { replies := (Bytes.ascii "0\r\n" ++ attempt) :: .replicate 3 attempt } {}

/-- One that comes to send the right sum. -/
def repentant : Session Scripted :=
  let attempt := encode [1, 2, 3, 4] ++ Bytes.ascii "11\r\n"
  Session.start { replies := [Bytes.ascii "0\r\n" ++ attempt, blockFrame [1, 2, 3, 4]] } {}

/-- What reading comes to with the two devices, and with a part that is programmed. -/
theorem reading_is_whole_rehearsed :
    (Session.readMemory 0 4 .lines false stubborn).1 = .error (.corruptBlock 0 4) ∧
      ((4 : Nat) = 4 ∧ 0 < blockCount 4) ∧
      (Session.readMemory 0 4 .lines false repentant).1 = .ok [1, 2, 3, 4] ∧
      [1, 2, 3, 4].length = 4 ∧
      ∃ plan, Plan.make rehearsal.part ⟨[1, 2, 3]⟩ .compute = .ok plan ∧
        (Session.verifyFlash rehearsal.part plan.data false : SessionM Scripted Unit) =
          Session.compareFlash rehearsal.part plan.data false := by
  have whole := reading_is_whole (δ := Scripted)
  have corrupt : (Session.readMemory 0 4 .lines false stubborn).1 = .error (.corruptBlock 0 4) := by
    decide +kernel
  have brought : (Session.readMemory 0 4 .lines false repentant).1 = .ok [1, 2, 3, 4] := by
    decide +kernel
  refine ⟨corrupt, (whole.1 0 4 .lines false stubborn).2 0 4 corrupt, brought,
    (whole.1 0 4 .lines false repentant).1 [1, 2, 3, 4] brought, _, rfl, ?_⟩
  exact whole.2.2.2.2.2 rehearsal.part ⟨[1, 2, 3]⟩ .compute _ false rfl

end Programmer

end SerialIsp
