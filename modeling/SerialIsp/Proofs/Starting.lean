import SerialIsp.Proofs.Bytes
import SerialIsp.Proofs.Dialogue.Turns
import SerialIsp.Proofs.Objections
import SerialIsp.Proofs.Transfer.Bounds

/-!
# Starting a program

A program is started through its reset vector: a word is fetched from the flash, the bootloader
is unlocked, and the jump is made to where the word points. The word comes from the device, over
a transfer that may be repeated, so nothing is known of it before. Whatever it is, it settles
what is written after it (`startOf`): there is no jump below `0x200`, where the vectors are, and
none before the bootloader has agreed to be unlocked.

A start takes turns, as all commands do that are sent without data. So what was heard tells how
it ended, and an answer that was cut off is never taken for one.
-/

namespace SerialIsp

open Wire

variable {δ : Type}

/-! ## What is written -/

/-- Where and how a program starts whose reset vector is `w`. -/
def startOf (w : UInt32) : UInt32 × ExecutionMode :=
  (w - w % 2, if w % 2 = 1 then .thumb else .arm)

theorem ofEntry_eq (w : UInt32) : ExecutionMode.ofEntry w = ((startOf w).2, (startOf w).1) := by
  have bit : w &&& 1 = w % 2 := by
    refine UInt32.toNat_inj.mp ?_
    rw [UInt32.toNat_and, UInt32.toNat_mod]
    exact Nat.and_one_is_mod _
  unfold ExecutionMode.ofEntry startOf
  rw [bit]
  by_cases odd : w % 2 = 1
  · simp only [odd, ↓reduceIte]
  · have even : w % 2 = 0 := by
      have other : w.toNat % 2 ≠ 1 := fun same => odd (UInt32.toNat_inj.mp same)
      refine UInt32.toNat_inj.mp ?_
      show w.toNat % 2 = 0
      omega
    simp [even]

/-- The line that asks for a vector. -/
def fetchLine (address : UInt32) : Bytes :=
  Bytes.ascii "R " ++ number address.toNat ++ Bytes.ascii " 4\r\n"

def unlockLine : Bytes := Bytes.ascii "U 23130\r\n"

/-- The line that starts a program. -/
def goLine (start : UInt32 × ExecutionMode) : Bytes :=
  Bytes.ascii "G " ++ number start.1.toNat ++
    match start.2 with
    | .thumb => Bytes.ascii " T\r\n"
    | .arm => Bytes.ascii " A\r\n"

/-- What is written to fetch a vector of which `resends` sendings are refused. -/
def fetchScript (address : UInt32) (encoding : Encoding) (resends : Nat) : List Bytes :=
  fetchLine address ::
    match encoding with
    | .raw => []
    | .lines => List.replicate resends blockWanted ++ [blockTaken]

theorem line_readMemory_four (address : UInt32) :
    (Command.readMemory address 4).line = fetchLine address := by
  have four : number (4 : UInt32).toNat = Bytes.ascii "4" := by decide +kernel
  have letter : CommandKind.readMemory.letter.toNat.toUInt8 :: [Command.space] =
    Bytes.ascii "R " := by decide +kernel
  have rest : Command.space :: Bytes.ascii "4" ++ [Bytes.cr, Bytes.lf] = Bytes.ascii " 4\r\n" := by
    decide +kernel
  rw [Command.line, Command.arguments, fetchLine, ← letter, ← rest, four]
  simp [Command.kind]

theorem line_unlock : Command.unlock.line = unlockLine := by decide +kernel

theorem line_go (start : UInt32 × ExecutionMode) :
    (Command.go start.1 start.2).line = goLine start := by
  have letter : CommandKind.go.letter.toNat.toUInt8 :: [Command.space] = Bytes.ascii "G " := by
    decide +kernel
  have rest (mode : ExecutionMode) : [Command.space, mode.letter] ++ [Bytes.cr, Bytes.lf] =
      match mode with
      | .thumb => Bytes.ascii " T\r\n"
      | .arm => Bytes.ascii " A\r\n" := by
    cases mode <;> decide +kernel
  rw [Command.line, Command.arguments, goLine, ← letter, ← rest]
  simp [Command.kind]

/-! ## Fetching the vector -/

/-- What is answered to a transfer of one block. -/
theorem TransferLog.Tells.answers_of_one {log : TransferLog} {left : Nat} {input rest : Bytes}
    (tells : log.Tells left input rest) (some : 0 < left) (one : left ≤ blockCapacity) :
    ∃ resends ≤ maxResends,
      log.answers <+: List.replicate resends blockWanted ++ [blockTaken] ∧
        (log.missing left = 0 →
          log.answers = List.replicate resends blockWanted ++ [blockTaken]) := by
  obtain ⟨delivered, refused⟩ := log
  obtain ⟨between, heard, -⟩ := tells.heard
  cases delivered with
  | nil =>
    refine ⟨min refused.length maxResends, Nat.min_le_right .., ?_, fun none => ?_⟩
    · rw [answers_nil rfl]
      exact List.prefix_append ..
    · rw [missing_nil] at none
      omega
  | cons d ds =>
    -- the block was delivered, and there is no other
    obtain ⟨-, behind, ⟨few, -⟩, later⟩ := heard
    have last : left - min left blockCapacity = 0 := by omega
    obtain rfl : ds = [] := by
      cases ds with
      | nil => rfl
      | cons d' ds =>
        obtain ⟨more, -⟩ := later
        omega
    have all : missing ⟨[d], refused⟩ left = 0 := by
      simp only [missing, List.length_cons, List.length_nil]
      omega
    obtain rfl : refused = [] := tells.needed all
    have answered : answers ⟨[d], []⟩ =
        List.replicate d.refused.length blockWanted ++ [blockTaken] := by
      simp [answers, Delivery.answers]
    exact ⟨d.refused.length, few, answered ▸ List.prefix_refl _, fun _ => answered⟩

namespace Dialogue

/-- What is said to fetch a vector is its script, and all of it where a vector comes. -/
theorem readMemory_recites (address : UInt32) (encoding : Encoding) (input : Bytes) :
    ∃ resends ≤ maxResends,
      (readMemory address 4 encoding input).said <+: fetchScript address encoding resends ∧
        ∀ vector rest, (readMemory address 4 encoding input).close = .done vector rest →
          (readMemory address 4 encoding input).said = fetchScript address encoding resends := by
  have opens (resends : Nat) : [fetchLine address] <+: fetchScript address encoding resends :=
    List.prefix_append ..
  have early : (opening address 4 input).said <+: [fetchLine address] := by
    rcases said_opening address 4 input with said | said
    · rw [said]
      exact List.nil_prefix
    · have asks := said.trans (congrArg ([·]) (line_readMemory_four address))
      exact asks ▸ List.prefix_refl _
  rw [readMemory_eq, bind_apply, goOn]
  cases opened : (opening address 4 input).close with
  | done _ stream =>
    obtain ⟨asked, -⟩ := opening_done opened
    rw [asked, line_readMemory_four]
    cases encoding with
    | raw =>
      have mute : (transfer 4 .raw stream).said = [] := (listening_take 4).mute stream
      have all : [fetchLine address] ++ (transfer 4 .raw stream).said =
          fetchScript address .raw 0 := congrArg ([fetchLine address] ++ ·) mute
      exact ⟨0, Nat.zero_le _, all ▸ List.prefix_refl _, fun _ _ _ => all⟩
    | lines =>
      obtain ⟨log, rest, tells, said, ends⟩ := readBlocks_log 0 4 stream
      obtain ⟨resends, few, some, all⟩ := tells.answers_of_one (by decide) (by decide)
      refine ⟨resends, few, ?_, fun vector rest' ended => ?_⟩
      · show [fetchLine address] ++ (readBlocksFrom 0 4 stream).said <+: _
        rw [said]
        exact (List.prefix_append_right_inj [fetchLine address]).mpr some
      · show [fetchLine address] ++ (readBlocksFrom 0 4 stream).said = _
        rw [said]
        have ended : (readBlocksFrom 0 4 stream).close = .done vector rest' := ended
        rw [ended] at ends
        cases ends with
        | complete none => exact congrArg (fetchLine address :: ·) (all none)
  | failed failure rest =>
    refine ⟨0, Nat.zero_le _, early.trans (opens 0), fun vector rest' ended => ?_⟩
    cases ended
  | waiting =>
    refine ⟨0, Nat.zero_le _, early.trans (opens 0), fun vector rest' ended => ?_⟩
    cases ended

end Dialogue

namespace Session

variable [Transport δ]

theorem readMemory_recites (address : UInt32) (encoding : Encoding) (progress : Bool)
    (s : Session δ) :
    ∃ cs resends, calls (readMemory address 4 encoding progress s).2 = calls s ++ cs ∧
      resends ≤ maxResends ∧ sent cs <+: fetchScript address encoding resends ∧
      ∀ vector, (readMemory address 4 encoding progress s).1 = .ok vector →
        sent cs = fetchScript address encoding resends := by
  obtain ⟨cs, grown, -, ending⟩ := readMemory_follows address 4 encoding progress s
  obtain ⟨resends, few, early, all⟩ :=
    Dialogue.readMemory_recites address encoding (held s ++ received cs)
  refine ⟨cs, resends, grown, few, (sent_prefix_said ending).trans early, fun vector ok => ?_⟩
  have settled := Settled.of_unbroken ending fun _ failed => nomatch ok.symm.trans failed
  have ended := settled.ended
  rw [ended, ok] at all
  exact all _ _ rfl

theorem readMemory_misaligned {address : UInt32} (h : address % 4 ≠ 0) (count : UInt32)
    (encoding : Encoding) (progress : Bool) (s : Session δ) :
    readMemory address count encoding progress s =
      (.error (.misaligned .address address 4), s) := by
  have refused : checkAlignment .address address 4 = .error (.misaligned .address address 4) :=
    if_pos h
  unfold readMemory
  rw [refused]
  rfl

end Session

/-! ## The jump -/

/-- The line was written, and answered by a status of 0. What was held back opens the answer,
    and what is behind it is left. -/
structure Granted (line before : Bytes) (cs : List Call) (after : Bytes) : Prop where
  wrote : sent cs = [line]
  answered : (Dialogue.status (before ++ received cs)).close = .done (.ofValue 0) after

/-- **How a start ends whose vector holds `w`**, by the calls behind the transfer. -/
structure Launched (w : UInt32) (before : Bytes) (cs : List Call)
    (result : Except Failure (UInt32 × ExecutionMode)) : Prop where
  low : (startOf w).1 < 0x200 → cs = [] ∧ result = .error (.jumpAddress (startOf w).1)
  high : ¬ (startOf w).1 < 0x200 → unlockLine ∈ sent cs
  script : sent cs <+: [unlockLine, goLine (startOf w)]
  /-- The jump is asked for when the bootloader has agreed to be unlocked, not before. -/
  unlocked : ∀ pre outcome post, cs = pre ++ .write (goLine (startOf w)) outcome :: post →
    ∃ between, Granted unlockLine before pre between
  /-- When it has, the jump is asked for. -/
  asks : ∀ between, (Dialogue.status (before ++ received cs)).close = .done (.ofValue 0) between →
    goLine (startOf w) ∈ sent cs
  /-- The start succeeds exactly when the bootloader has agreed to the jump. -/
  ok : result = .ok (startOf w) ↔ ∃ us gs between after, cs = us ++ gs ∧
    Granted unlockLine before us between ∧ Granted (goLine (startOf w)) between gs after
  only : ∀ start, result = .ok start → start = startOf w

namespace Dialogue

/-- Asks for the jump. -/
def jump (w : UInt32) : Dialogue (UInt32 × ExecutionMode) := do
  command (.go (startOf w).1 (startOf w).2)
  return startOf w

/-- Asks to unlock, and then for the jump. -/
def launch (w : UInt32) : Dialogue (UInt32 × ExecutionMode) := do
  command .unlock
  jump w

theorem said_unlock (input : Bytes) : (command .unlock input).said = [unlockLine] := by
  rw [said_command, line_unlock]

theorem said_jump (w : UInt32) (input : Bytes) : (jump w input).said = [goLine (startOf w)] := by
  rw [jump, bind_pure_apply, said_command, line_go]

/-- A jump is asked for when the bootloader was unlocked, and without it there is no end. -/
theorem said_launch (w : UInt32) (input : Bytes) :
    (launch w input).said = [unlockLine] ∧
        (∀ start rest, (launch w input).close ≠ .done start rest) ∨
      (launch w input).said = [unlockLine, goLine (startOf w)] ∧
        ∃ between, (status input).close = .done (.known .cmdSuccess) between := by
  rw [launch, bind_apply, goOn, said_unlock]
  cases unlocked : (command .unlock input).close with
  | done _ between =>
    dsimp only
    rw [said_jump]
    exact .inr ⟨rfl, between, command_done unlocked⟩
  | failed failure rest =>
    refine .inl ⟨rfl, fun start rest' ended => ?_⟩
    cases ended
  | waiting =>
    refine .inl ⟨rfl, fun start rest' ended => ?_⟩
    cases ended

theorem launch_done {w : UInt32} {input rest : Bytes} {start : UInt32 × ExecutionMode} :
    (launch w input).close = .done start rest ↔ start = startOf w ∧ ∃ between,
      (status input).close = .done (.known .cmdSuccess) between ∧
        (status between).close = .done (.known .cmdSuccess) rest := by
  simp only [launch, jump, close_bind_done, pure_apply, Close.done.injEq]
  constructor
  · rintro ⟨_, between, unlocked, _, _, started, rfl, rfl⟩
    exact ⟨rfl, between, command_done unlocked, command_done started⟩
  · rintro ⟨rfl, between, unlocked, started⟩
    refine ⟨(), between, ?_, (), rest, ?_, rfl, rfl⟩
    · exact congrArg Course.close (command_of_answered unlocked)
    · exact congrArg Course.close (command_of_answered started)

end Dialogue

theorem goLine_ne_unlockLine (start : UInt32 × ExecutionMode) : goLine start ≠ unlockLine := by
  intro same
  have letter : (goLine start).head? = some 71 := by
    simp only [goLine, List.append_assoc]
    rfl
  rw [same] at letter
  exact absurd letter (by decide +kernel)

namespace Launched

variable {w : UInt32} {before after : Bytes} {cs : List Call}
  {result : Except Failure (UInt32 × ExecutionMode)}

theorem granted_of_lawful (law : Lawful (Dialogue.launch w) before cs) {pre post : List Call}
    {outcome : Except PortFault Nat}
    (split : cs = pre ++ .write (goLine (startOf w)) outcome :: post) :
    ∃ between, Granted unlockLine before pre between := by
  have due := law.writes split
  have other := goLine_ne_unlockLine (startOf w)
  cases first : sent pre with
  | nil =>
    -- the first line is another one
    rw [first] at due
    rcases Dialogue.said_launch w (before ++ received pre) with ⟨said, -⟩ | ⟨said, -⟩
    all_goals
      rw [said] at due
      exact absurd (List.cons_prefix_cons.mp due).1 other
  | cons b bs =>
    rw [first] at due
    rcases Dialogue.said_launch w (before ++ received pre) with
      ⟨said, -⟩ | ⟨said, between, answered⟩
    · rw [said] at due
      have short := due.length_le
      simp at short
    · rw [said] at due
      have length := due.length_le
      obtain ⟨rfl, -⟩ := List.cons_prefix_cons.mp due
      obtain rfl : bs = [] := List.length_eq_zero_iff.mp (by simpa using length)
      exact ⟨between, first, answered⟩

/-- A start that succeeds was agreed to twice. -/
theorem granted_of_done (law : Lawful (Dialogue.launch w) before cs) {rest : Bytes}
    {start : UInt32 × ExecutionMode}
    (ended : Dialogue.launch w (before ++ received cs) = ⟨sent cs, .done start rest⟩) :
    ∃ us gs between, cs = us ++ gs ∧ Granted unlockLine before us between ∧
      Granted (goLine (startOf w)) between gs rest := by
  have wrote : sent cs = [unlockLine, goLine (startOf w)] := by
    have said := congrArg Course.said ended
    rcases Dialogue.said_launch w (before ++ received cs) with ⟨-, endless⟩ | ⟨both, -⟩
    · exact absurd (congrArg Course.close ended) (endless start rest)
    · exact said.symm.trans both
  have jumped : goLine (startOf w) ∈ sent cs := by simp [wrote]
  obtain ⟨us, outcome, post, rfl⟩ := exists_write_of_mem_sent jumped
  obtain ⟨between, unlocked⟩ := granted_of_lawful law rfl
  refine ⟨us, .write (goLine (startOf w)) outcome :: post, between, rfl, unlocked, ?_, ?_⟩
  · rw [sent_append, unlocked.wrote] at wrote
    exact (List.cons.inj wrote).2
  · -- the answer to the first command ends where it ended when the second was sent
    obtain ⟨-, between', answered, started⟩ :=
      Dialogue.launch_done.mp (congrArg Course.close ended)
    rw [received_append, ← List.append_assoc,
      Dialogue.stands_status unlocked.answered] at answered
    cases answered
    exact started

theorem of_heeded (high : ¬ (startOf w).1 < 0x200) (law : Lawful (Dialogue.launch w) before cs)
    (heeded : Heeded (Dialogue.launch w) before cs result after)
    (asks : ∀ between, (Dialogue.status (before ++ received cs)).close =
      .done (.known .cmdSuccess) between → goLine (startOf w) ∈ sent cs) :
    Launched w before cs result where
  low below := absurd below high
  high _ := by
    obtain ⟨later, said⟩ : ∃ later,
        (Dialogue.launch w (before ++ received cs)).said = unlockLine :: later := by
      rcases Dialogue.said_launch w (before ++ received cs) with ⟨said, -⟩ | ⟨said, -⟩
      · exact ⟨[], said⟩
      · exact ⟨[goLine (startOf w)], said⟩
    exact mem_sent_of_said heeded.ending said
  script := by
    have early := sent_prefix_said heeded.ending
    rcases Dialogue.said_launch w (before ++ received cs) with ⟨said, -⟩ | ⟨said, -⟩
    · rw [said] at early
      exact early.trans (List.prefix_append [unlockLine] _)
    · rwa [said] at early
  unlocked _ _ _ := granted_of_lawful law
  asks := asks
  ok := by
    constructor
    · intro ok
      have settled := Settled.of_unbroken heeded.ending fun _ failed => nomatch ok.symm.trans failed
      have ended := settled.ended
      rw [ok] at ended
      obtain ⟨us, gs, between, split, unlocked, started⟩ := granted_of_done law ended
      exact ⟨us, gs, between, after, split, unlocked, started⟩
    · rintro ⟨us, gs, between, rest, rfl, unlocked, started⟩
      refine heeded.ok_iff.mpr ⟨rest, Dialogue.launch_done.mpr
        ⟨rfl, between ++ received gs, ?_, started.answered⟩⟩
      rw [received_append, ← List.append_assoc]
      exact Dialogue.stands_status unlocked.answered _
  only start ok := by
    obtain ⟨rest, ended⟩ := heeded.ok_iff.mp ok
    exact (Dialogue.launch_done.mp ended).1

/-- Below the lowest entry nothing is asked for. -/
theorem of_low (low : (startOf w).1 < 0x200) (short : before.length ≤ 1) :
    Launched w before [] (.error (.jumpAddress (startOf w).1)) where
  low _ := ⟨rfl, rfl⟩
  high above := absurd low above
  script := List.nil_prefix
  unlocked _ _ _ split := absurd split (by simp)
  asks between answered := by
    -- what is held back is no answer
    rw [received_nil, List.append_nil, Dialogue.status_waits short] at answered
    cases answered
  ok := by
    constructor
    · intro ok
      cases ok
    · rintro ⟨us, gs, between, rest, split, unlocked, -⟩
      obtain ⟨rfl, -⟩ := List.append_eq_nil_iff.mp split.symm
      cases unlocked.wrote
  only start ok := by cases ok

end Launched

namespace Session

variable [Transport δ]

def jump (w : UInt32) : SessionM δ (UInt32 × ExecutionMode) := do
  command (.go (startOf w).1 (startOf w).2)
  notify (.started (startOf w).1 (startOf w).2)
  return startOf w

/-- What a start does behind the transfer. -/
def launch (w : UInt32) : SessionM δ (UInt32 × ExecutionMode) := do
  unlock
  jump w

theorem jump_heeds (w : UInt32) (s : Session δ) :
    HeedsAt (jump w : SessionM δ (UInt32 × ExecutionMode)) (Dialogue.jump w) s := by
  refine .bind (command_heeds _ s) fun _ s' _ => ?_
  exact .after rfl rfl rfl (FollowsAt.heeds (follows_pure (startOf w) _) fun _ => rfl)

theorem launch_heeds (w : UInt32) (s : Session δ) :
    HeedsAt (launch w : SessionM δ (UInt32 × ExecutionMode)) (Dialogue.launch w) s :=
  .bind (command_heeds .unlock s) fun _ s' _ => jump_heeds w s'

/-- Where the bootloader has agreed to be unlocked, the jump is asked for. -/
theorem launch_asks {w : UInt32} {s : Session δ} {cs : List Call} {between : Bytes}
    (grown : calls (launch w s).2 = calls s ++ cs)
    (answered : (Dialogue.status (held s ++ received cs)).close =
      .done (.known .cmdSuccess) between) : goLine (startOf w) ∈ sent cs := by
  obtain ⟨us, early, -, heeded⟩ := command_heeds .unlock s
  rw [launch, run_bind] at grown
  rcases run : unlock s with ⟨failure | _, s'⟩
  · -- a failure would have met another answer, or none
    rw [show command Command.unlock s = _ from run] at early heeded
    rw [run] at grown
    obtain rfl := List.append_cancel_left (early.symm.trans grown)
    have ended := congrArg Course.close (Dialogue.command_of_answered (c := .unlock) answered)
    cases heeded.ok_iff.mpr ⟨between, ended⟩
  · rw [show command Command.unlock s = _ from run] at early
    rw [run] at grown
    obtain ⟨gs, later, -, jumped⟩ := jump_heeds w s'
    obtain rfl : cs = us ++ gs := by
      refine List.append_cancel_left (grown.symm.trans (later.trans ?_))
      rw [← List.append_assoc, ← early]
    rw [sent_append]
    exact List.mem_append_right _ (mem_sent_of_said jumped.ending (Dialogue.said_jump w _))

theorem execute_eq_launch {part : Part} {vector : Bytes} {s s' : Session δ}
    (run : readMemory (part.flashBase + part.resetVectorOffset) 4 part.encoding false s =
      (.ok vector, s')) :
    execute part s =
      if (startOf (vector.wordAt 0)).1 < 0x200 then
        (.error (.jumpAddress (startOf (vector.wordAt 0)).1), s')
      else launch (vector.wordAt 0) s' := by
  have four : vector.length = 4 := length_of_readMemory run
  unfold execute
  rw [run_bind]
  rw [show readMemory part.resetVectorAddress 4 part.encoding false s = (.ok vector, s') from run]
  simp only [four, ne_eq, not_true_eq_false, ↓reduceIte, ofEntry_eq]
  by_cases low : (startOf (vector.wordAt 0)).1 < 0x200
  · rw [if_pos low]
    have first : (startOf (vector.wordAt 0)).1 < lowestEntry := low
    simp only [first, ↓reduceIte]
    rfl
  · -- a jump makes the same check once more
    rw [if_neg low]
    have first : ¬ (startOf (vector.wordAt 0)).1 < lowestEntry := low
    simp only [first, ↓reduceIte, go]
    rfl

theorem execute_of_fetched {part : Part} {vector : Bytes} {s s' : Session δ}
    (run : readMemory (part.flashBase + part.resetVectorOffset) 4 part.encoding false s =
      (.ok vector, s')) :
    ∃ cs, calls (execute part s).2 = calls s' ++ cs ∧
      Launched (vector.wordAt 0) (held s') cs (execute part s).1 := by
  rw [execute_eq_launch run]
  by_cases low : (startOf (vector.wordAt 0)).1 < 0x200
  · rw [if_pos low]
    exact ⟨[], (List.append_nil _).symm, .of_low low (length_held s')⟩
  · rw [if_neg low]
    obtain ⟨cs, grown, law, heeded⟩ := launch_heeds (vector.wordAt 0) s'
    exact ⟨cs, grown, .of_heeded low law heeded fun _ => launch_asks grown⟩

theorem execute_of_failed {part : Part} {failure : Failure} {s s' : Session δ}
    (run : readMemory (part.flashBase + part.resetVectorOffset) 4 part.encoding false s =
      (.error failure, s')) : execute part s = (.error failure, s') := by
  unfold execute
  rw [run_bind]
  rw [show readMemory part.resetVectorAddress 4 part.encoding false s = (.error failure, s')
    from run]

end Session

namespace Programmer

variable [Transport δ]

/-- **A start keeps to its script**, for every part, over every transport. First the vector is
    fetched, from where the part has it; a start that fails there ends there. What is done with
    the word of the vector is `Launched`. -/
theorem execute_keeps_script (P : Programmer δ) :
    let address := P.part.flashBase + P.part.resetVectorOffset
    let fetched := Session.readMemory address 4 P.part.encoding false P.session
    let run := execute P
    ∃ fetching launching resends, calls fetched.2 = calls P ++ fetching ∧
      calls run.2 = calls P ++ fetching ++ launching ∧
      resends ≤ maxResends ∧ sent fetching <+: fetchScript address P.part.encoding resends ∧
      (address % 4 ≠ 0 → fetching = [] ∧ launching = [] ∧
        run.1 = .error (.misaligned .address address 4)) ∧
      (∀ failure, fetched.1 = .error failure → launching = [] ∧ run.1 = .error failure) ∧
      ∀ vector, fetched.1 = .ok vector →
        sent fetching = fetchScript address P.part.encoding resends ∧
          ∃ w, vector = Bytes.ofWord w ∧ Launched w (held fetched.2) launching run.1 := by
  intro address fetched run
  obtain ⟨fetching, resends, grown, few, early, whole⟩ :=
    Session.readMemory_recites address P.part.encoding false P.session
  have ran : run = onSession (Session.execute P.part) P := rfl
  have misaligned (odd : address % 4 ≠ 0) :
      fetched = (.error (.misaligned .address address 4), P.session) :=
    Session.readMemory_misaligned odd 4 P.part.encoding false P.session
  rcases out : fetched with ⟨failure | vector, s'⟩
  · rw [show Session.readMemory _ 4 _ false _ = _ from out] at grown
    rw [onSession_apply, Session.execute_of_failed out] at ran
    rw [ran]
    refine ⟨fetching, [], resends, grown, (List.append_nil _).symm ▸ grown, few, early,
      fun odd => ?_, fun f same => ?_, nofun⟩
    · obtain ⟨same, rfl⟩ := Prod.mk.inj (out.symm.trans (misaligned odd))
      cases same
      exact ⟨List.self_eq_append_right.mp grown, rfl, rfl⟩
    · cases same
      exact ⟨rfl, rfl⟩
  · rw [show Session.readMemory _ 4 _ false _ = _ from out] at grown whole
    obtain ⟨launching, later, launched⟩ := Session.execute_of_fetched out
    rw [onSession_apply] at ran
    rw [ran]
    refine ⟨fetching, launching, resends, grown, ?_, few, early, fun odd => ?_, nofun,
      fun v same => ?_⟩
    · exact later.trans (congrArg (· ++ launching) grown)
    · cases (Prod.mk.inj (out.symm.trans (misaligned odd))).1
    · cases same
      refine ⟨whole vector rfl, vector.wordAt 0, ?_, launched⟩
      exact (Bytes.ofWord_wordAt (Session.length_of_readMemory out)).symm

/-- A programmer with a device whose vector is the given word, and which agrees to everything. -/
def willing (w : UInt32) : Programmer Scripted where
  session := Session.start
    { replies := [Bytes.ascii "0\r\n" ++ blockFrame (Bytes.ofWord w), [], Bytes.ascii "0\r\n",
        Bytes.ascii "0\r\n"] } {}
  part := rehearsal.part

/-- A start, one that is refused for its vector, one that cannot fetch it, and one that has no
    place to fetch it from. -/
theorem execute_keeps_script_rehearsed :
    let silent : Programmer Scripted := { willing 0x201 with session := Session.start {} {} }
    let odd := { willing 0x201 with part := { rehearsal.part with resetVectorOffset := 6 } }
    ((execute (willing 0x201)).1 = .ok (0x200, .thumb) ∧
      ∃ fetching us gs resends, calls (execute (willing 0x201)).2 = fetching ++ (us ++ gs) ∧
        sent fetching = fetchScript 4 .lines resends ∧
        sent us = [Bytes.ascii "U 23130\r\n"] ∧ sent gs = [Bytes.ascii "G 512 T\r\n"]) ∧
      (execute (willing 0x1fe)).1 = .error (.jumpAddress 0x1fe) ∧
      (execute silent).1 = .error (.connecting (.timeout (some .readMemory))) ∧
      (execute odd).1 = .error (.misaligned .address 6 4) ∧ calls (execute odd).2 = [] := by
  intro silent odd
  have started : (execute (willing 0x201)).1 = .ok (0x200, .thumb) := by decide +kernel
  refine ⟨⟨started, ?_⟩, ?_, ?_, ?_⟩
  · obtain ⟨fetching, launching, resends, -, called, -, -, -, -, fetched⟩ :=
      execute_keeps_script (willing 0x201)
    have brought : (Session.readMemory 4 4 .lines false (willing 0x201).session).1 =
        .ok (Bytes.ofWord 0x201) := by decide +kernel
    obtain ⟨whole, w, same, launched⟩ := fetched _ brought
    obtain rfl : w = 0x201 := by
      rw [← Bytes.wordAt_ofWord w, ← same, Bytes.wordAt_ofWord]
    obtain ⟨us, gs, between, after, rfl, unlocked, went⟩ := launched.ok.mp started
    refine ⟨fetching, us, gs, resends, ?_, whole, unlocked.wrote, ?_⟩
    · rw [called, List.append_assoc]
      rfl
    · rw [went.wrote]
      decide +kernel
  · obtain ⟨fetching, launching, resends, -, -, -, -, -, -, fetched⟩ :=
      execute_keeps_script (willing 0x1fe)
    have brought : (Session.readMemory 4 4 .lines false (willing 0x1fe).session).1 =
        .ok (Bytes.ofWord 0x1fe) := by decide +kernel
    obtain ⟨-, w, same, launched⟩ := fetched _ brought
    obtain rfl : w = 0x1fe := by
      rw [← Bytes.wordAt_ofWord w, ← same, Bytes.wordAt_ofWord]
    exact (launched.low (by decide)).2
  · obtain ⟨fetching, launching, resends, -, -, -, -, -, failed, -⟩ := execute_keeps_script silent
    have nothing : (Session.readMemory 4 4 .lines false silent.session).1 =
        .error (.connecting (.timeout (some .readMemory))) := by decide +kernel
    exact (failed _ nothing).2
  · obtain ⟨fetching, launching, resends, -, called, -, -, misaligned, -, -⟩ :=
      execute_keeps_script odd
    obtain ⟨rfl, rfl, refused⟩ := misaligned (by decide)
    exact ⟨refused, called⟩

end Programmer

end SerialIsp
