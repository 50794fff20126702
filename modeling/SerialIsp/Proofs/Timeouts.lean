import SerialIsp.Proofs.Dialogue.Memory
import SerialIsp.Proofs.Observation
import SerialIsp.Proofs.Runs

/-!
# Timeouts and the commands they name

A timeout that ends an operation comes from the last call that was made. It names the command
that was running, whatever it was that took too long, with one exception: where blocks are
transferred, the writes behind the command are not part of it. When such a write times out, be
it an answer to a block that was read or a block of data, no command is named
(`SessionCall.timeouts_name_command`, `SessionCall.timeouts_without_command`).

What is read is always read for a command. What is written is either the line of one, or
comes behind it, and then it is written for no command in particular.
-/

namespace SerialIsp

open Wire

variable {α β δ : Type}

/-- The command that is named, if any, in a failure that is a timeout. -/
def Failure.timeout? : Failure → Option (Option CommandKind)
  | .connecting (.timeout named) | .flashing (.timeout named) => some named
  | _ => none

def Call.isWrite : Call → Bool
  | .write .. => true
  | _ => false

/-- If this is a timeout, it is one of the last call, and it names what is due there. -/
def TimesOut (due : List Call → Call → Option CommandKind) (cs : List Call)
    (r : Except Failure α) : Prop :=
  ∀ failure named, r = .error failure → failure.timeout? = some named →
    ∃ pre c, cs = pre ++ [c] ∧ named = due pre c

theorem Failure.timeout?_during {failure : Failure} {k : CommandKind}
    {named : Option CommandKind} (h : (failure.during k).timeout? = some named) :
    named = some k := by
  cases failure with
  | connecting fault =>
    cases fault <;> cases h
    rfl
  | flashing fault =>
    cases fault <;> cases h
    rfl
  | _ => cases h

/-- What is no timeout to begin with gets no name. -/
theorem Failure.timeout?_of_untimed {failure : Failure} (h : ∀ k, failure.during k = failure) :
    failure.timeout? = none := by
  cases named : failure.timeout? with
  | none => rfl
  | some n =>
    -- it would have the name of any command
    have unlock : n = some .unlock := Failure.timeout?_during ((h .unlock).symm ▸ named)
    have erase : n = some .erase := Failure.timeout?_during ((h .erase).symm ▸ named)
    rw [unlock] at erase
    cases erase

namespace TimesOut

variable {due due' : List Call → Call → Option CommandKind} {cs ds : List Call}

theorem ok (a : α) : TimesOut due cs (.ok a) := by
  intro failure named failed
  cases failed

theorem error_of_untimed {failure : Failure} (h : failure.timeout? = none) :
    TimesOut due cs (.error failure : Except Failure α) := by
  intro f named failed timeout
  obtain rfl := Except.error.inj failed
  cases h.symm.trans timeout

theorem first {failure : Failure} (h : TimesOut due cs (.error failure : Except Failure α)) :
    TimesOut due cs (.error failure : Except Failure β) := by
  intro f named failed timeout
  obtain rfl := Except.error.inj failed
  exact h failure named rfl timeout

/-- The last call stays the last one behind others. -/
theorem after {r : Except Failure α} (h : TimesOut due ds r)
    (same : ∀ pre c, ds = pre ++ [c] → due' (cs ++ pre) c = due pre c) :
    TimesOut due' (cs ++ ds) r := by
  intro failure named failed timeout
  obtain ⟨pre, c, rfl, rfl⟩ := h failure named failed timeout
  exact ⟨cs ++ pre, c, (List.append_assoc ..).symm, (same pre c rfl).symm⟩

end TimesOut

/-! ## Actions that name a command -/

section

variable {σ : Type} [OnLine σ] {k : CommandKind} {m n : Nat}

/-- Actions that write so often at most, and name the command in every timeout. -/
def Names (k : CommandKind) (n : Nat) (action : ExceptT Failure (StateM σ) α) : Prop :=
  Leaves (fun cs r => (sent cs).length ≤ n ∧ TimesOut (fun _ _ => some k) cs r) action

namespace Names

variable {action : ExceptT Failure (StateM σ) α}

theorem pure (a : α) : Names k 0 (Pure.pure a : ExceptT Failure (StateM σ) α) :=
  leaves_pure ⟨Nat.le_refl _, .ok a⟩

theorem throw {failure : Failure} (h : failure.timeout? = none) :
    Names k 0 (MonadExcept.throw failure : ExceptT Failure (StateM σ) α) :=
  leaves_throw ⟨Nat.le_refl _, .error_of_untimed h⟩

theorem bind {next : α → ExceptT Failure (StateM σ) β} (first : Names k m action)
    (second : ∀ a, Names k n (next a)) : Names k (m + n) (action >>= next) := by
  refine Leaves.bind first (fun cs failure h => ⟨by omega, h.2.first⟩) fun a =>
    Leaves.mono (second a) fun ds r there cs here => ⟨?_, there.2.after fun _ _ _ => rfl⟩
  have := here.1
  have := there.1
  rw [sent_append, List.length_append]
  omega

theorem after {quiet : ExceptT Failure (StateM σ) Unit}
    {next : Unit → ExceptT Failure (StateM σ) α} (silent : Silent quiet)
    (h : Names k n (next ())) : Names k n (quiet >>= next) := Silent.leaves silent h

theorem map {next : α → ExceptT Failure (StateM σ) β} (h : Names k n action)
    (second : ∀ a, Names k 0 (next a)) : Names k n (action >>= next) := h.bind second

/-- Every timeout of an action that has none of its own is one of the transport, and so of
    the last call. -/
theorem of_follows {p : Dialogue α} (h : Follows action p) (untimed : p.Untimed)
    (said : ∀ input, (p input).said.length ≤ n)
    (named : FailsAs (fun failure => ∀ k', failure.timeout? = some k' → k' = some k) action) :
    Names k n action := by
  intro s
  obtain ⟨cs, grown, -, ending⟩ := h s
  refine ⟨cs, grown, ?_, fun failure name failed timeout => ?_⟩
  · exact Nat.le_trans (sent_prefix_said ending).length_le (said _)
  · have run : action s = (.error failure, (action s).2) := Prod.ext failed rfl
    rcases ending with settled | broken
    · rw [failed] at settled
      have none := Failure.timeout?_of_untimed (untimed (congrArg Course.close settled.ended))
      cases none.symm.trans timeout
    · obtain ⟨pre, c, last, -⟩ := broken.last
      exact ⟨pre, c, last, named run name timeout⟩

end Names

end

namespace Session

variable [Transport δ] {k : CommandKind} {n : Nat}

omit [Transport δ] in
theorem during_names {action : SessionM δ α} {p : Dialogue α} (h : Follows action p)
    (untimed : p.Untimed) (said : ∀ input, (p input).said.length ≤ n) :
    Names k n (during k action) := by
  refine .of_follows (during_follows h untimed k) untimed said ?_
  intro s failure s' failed k' named
  unfold during at failed
  rcases run : action s with ⟨f | a, s''⟩
  · rw [run] at failed
    cases failed
    exact Failure.timeout?_during named
  · rw [run] at failed
    cases failed

omit [Transport δ] in
/-- What is only heard for a command. -/
theorem during_listening {action : SessionM δ α} {p : Dialogue α} (h : Follows action p)
    (listening : p.Listening) : Names k 0 (during k action) :=
  during_names h listening.untimed fun input => by rw [listening.mute]; exact Nat.le_refl _

/-! ### Commands, each of them one write -/

theorem commandStatus_names (c : Command) :
    Names c.kind 1 (commandStatus c : SessionM δ Status) := by
  have exchange : Follows (do writeBytes c.line; readStatus : SessionM δ Status)
      (Dialogue.commandStatus c) :=
    (writeBytes_follows c.line).bind fun _ => readStatus_follows
  have untimed : (Dialogue.commandStatus c).Untimed :=
    (Dialogue.failsOnly_say _).bind fun _ => Dialogue.listening_status.untimed
  refine .after (silent_notify _) (Leaves.get fun s => ?_)
  refine (during_names (withTimeout_follows exchange _) untimed fun input => ?_).map
    fun status => .after (silent_traceNotice _) (.pure status)
  rw [Dialogue.commandStatus_apply]
  exact Nat.le_refl _

theorem command_names (c : Command) : Names c.kind 1 (command c : SessionM δ Unit) := by
  refine (commandStatus_names c).map fun status => ?_
  cases status.isSuccess with
  | true => exact .pure ()
  | false =>
    refine Leaves.get fun s => ?_
    cases s.settings.trace with
    | true => exact Names.throw rfl
    | false => exact Names.after (silent_notify _) (.throw rfl)

theorem replyNumber_names (k : CommandKind) :
    Names k 0 (replyNumber k : SessionM δ UInt32) :=
  during_listening readNumber_follows Dialogue.listening_number

theorem replyNumbers_names (k : CommandKind) (n : Nat) :
    Names k 0 (replyNumbers k n : SessionM δ (List UInt32)) := by
  induction n with
  | zero => exact .pure []
  | succ n ih => exact (replyNumber_names k).map fun _ => ih.map fun _ => .pure _

theorem query_names (c : Command) : Names c.kind 1 (query c : SessionM δ (List UInt32)) :=
  (command_names c).map fun _ => replyNumbers_names _ _

omit [Transport δ] in
theorem checkAlignment_names (operand : Operand) (value alignment : UInt32) :
    Names k 0 (ofExcept (checkAlignment operand value alignment) : SessionM δ Unit) := by
  unfold checkAlignment
  split
  · exact .throw rfl
  · exact .pure ()

omit [Transport δ] in
theorem checkSectorRange_names (first last : UInt32) :
    Names k 0 (ofExcept (checkSectorRange first last) : SessionM δ Unit) := by
  unfold checkSectorRange
  split
  · exact .throw rfl
  · exact .pure ()

theorem blankCheck_names (first last : UInt32) :
    Names .blankCheck 1 (blankCheck first last : SessionM δ BlankCheck) := by
  refine (checkSectorRange_names _ _).bind fun _ => (commandStatus_names _).map fun status => ?_
  cases status with
  | known code =>
    cases code with
    | cmdSuccess => exact .pure _
    | sectorNotBlank =>
      exact (replyNumber_names _).map fun _ => (replyNumber_names _).map fun _ => .pure _
    | _ => exact .throw rfl
  | unknown n => exact .throw rfl

theorem compare_names (address1 address2 size : UInt32) :
    Names .compare 1 (compare address1 address2 size : SessionM δ (Option UInt32)) := by
  refine (checkAlignment_names _ _ _).bind fun _ => (checkAlignment_names _ _ _).bind fun _ =>
    (checkAlignment_names _ _ _).bind fun _ => (commandStatus_names _).map fun status => ?_
  cases status with
  | known code =>
    cases code with
    | cmdSuccess => exact .pure _
    | compareError => exact (replyNumber_names _).map fun _ => .pure _
    | _ => exact .throw rfl
  | unknown n => exact .throw rfl

theorem go_names (address : UInt32) (mode : ExecutionMode) :
    Names .go 1 (go address mode : SessionM δ Unit) := by
  unfold go
  split
  · exact (Names.throw rfl).bind fun _ => command_names _
  · exact command_names _

/-! ### Behind a command

Writes that are not part of it name no command, and reads name the one they belong to. -/

/-- Actions that go on with a command that was answered. -/
def GoesOn (k : CommandKind) (action : SessionM δ α) : Prop :=
  Leaves (TimesOut fun _ c => if c.isWrite then none else some k) action

omit [Transport δ] in
theorem goesOn_of_names {action : SessionM δ α} (h : Names k 0 action) : GoesOn k action := by
  refine Leaves.mono h fun cs r here failure named failed timeout => ?_
  obtain ⟨pre, c, rfl, rfl⟩ := here.2 failure named failed timeout
  refine ⟨pre, c, rfl, ?_⟩
  cases c with
  | write b o =>
    have none := here.1
    rw [sent_append, List.length_append, sent_write, List.length_singleton] at none
    omega
  | read n timeout o => rfl
  | clear o => rfl

omit [Transport δ] in
theorem GoesOn.bind {action : SessionM δ α} {next : α → SessionM δ β} (first : GoesOn k action)
    (second : ∀ a, GoesOn k (next a)) : GoesOn k (action >>= next) :=
  Leaves.bind first (fun _ _ h => h.first) fun a =>
    Leaves.mono (second a) fun _ _ there _ _ => there.after fun _ _ _ => rfl

omit [Transport δ] in
theorem goesOn_pure (a : α) : GoesOn k (pure a : SessionM δ α) := goesOn_of_names (.pure a)

omit [Transport δ] in
/-- Ports know of no command. -/
theorem timeout?_of_writeResult {b : Bytes} {outcome : Except PortFault Nat} {failure : Failure}
    {named : Option CommandKind} (h : writeResult b outcome = .error failure)
    (timeout : failure.timeout? = some named) : named = none := by
  cases outcome with
  | error fault =>
    cases h
    rcases fault with ⟨_ | _ | _ | _, _⟩ | ⟨_ | _ | _, _⟩
    all_goals
      cases timeout
      try rfl
  | ok taken =>
    by_cases all : taken = b.length
    · simp only [writeResult, all, ↓reduceIte] at h
      cases h
    · simp only [writeResult, all, ↓reduceIte] at h
      cases h
      cases timeout

theorem writeBytes_goesOn (b : Bytes) : GoesOn k (writeBytes b : SessionM δ Unit) := by
  intro s
  obtain ⟨notices, run⟩ := writeBytes_apply b s
  rw [run]
  refine ⟨[.write b (Transport.write s.device b).1], Array.toList_push, ?_⟩
  intro failure named failed timeout
  exact ⟨[], _, rfl, timeout?_of_writeResult failed timeout⟩

theorem readSum_names : Names .readMemory 0 (readSum : SessionM δ (Option UInt32)) := by
  refine .of_follows readSum_follows (fun input failure rest ended => ?_) (fun input => ?_)
    fun s failure s' failed k' named => ?_
  · rcases Dialogue.orNone_number input with waits | ⟨sum, rest', done⟩
    · rw [waits] at ended
      cases ended
    · rw [done] at ended
      cases ended
  · rcases Dialogue.orNone_number input with waits | ⟨sum, rest', done⟩
    · rw [waits]
      exact Nat.le_refl _
    · rw [done]
      exact Nat.le_refl _
  · simp only [readSum, bind_apply, attempt] at failed
    rcases run : readNumber s with ⟨f | sum, s''⟩
    · rw [run] at failed
      cases f with
      | connecting fault =>
        cases fault <;> cases failed <;> exact Failure.timeout?_during named
      | _ =>
        cases failed
        exact Failure.timeout?_during named
    · rw [run] at failed
      cases failed

theorem receiveBlock_goesOn (block length : Nat) :
    GoesOn .readMemory (receiveBlock block length : SessionM δ (Option Bytes)) := by
  have encoded := during_listening (k := .readMemory)
    (readExact_follows (δ := δ) (encodedLength length)) (Dialogue.listening_take _)
  refine goesOn_of_names (encoded.map fun encoded => readSum_names.map fun sum => ?_)
  cases decode encoded with
  | ok b => exact .pure _
  | error cut => exact .after (silent_notify _) (.pure none)

omit [Transport δ] in
theorem untilArrived_goesOn {sending : SessionM δ (Option α)} {again : SessionM δ Unit}
    (h : GoesOn k sending) (h' : GoesOn k again) (block resends : Nat) :
    GoesOn k (untilArrived block sending again resends) := by
  induction resends with
  | zero =>
    rw [untilArrived]
    refine h.bind fun arrived => ?_
    cases arrived with
    | some a => exact goesOn_pure a
    | none => exact goesOn_of_names (.throw rfl)
  | succ left ih =>
    rw [untilArrived]
    refine h.bind fun arrived => ?_
    cases arrived with
    | some a => exact goesOn_pure a
    | none => exact Silent.leaves (silent_notify _) (h'.bind fun _ => ih)

theorem readBlocksFrom_goesOn (progress : Bool) (count block left : Nat) :
    GoesOn .readMemory (readBlocksFrom progress count block left : SessionM δ Bytes) := by
  have readBlock (block length : Nat) :
      GoesOn .readMemory (readBlock block length : SessionM δ Bytes) :=
    (untilArrived_goesOn (receiveBlock_goesOn _ _) (writeBytes_goesOn _) _ _).bind fun b =>
      (writeBytes_goesOn _).bind fun _ => goesOn_pure b
  induction left using Nat.strongRecOn generalizing block with
  | ind left ih =>
    rw [readBlocksFrom]
    split
    · exact goesOn_pure []
    · next more =>
      refine (readBlock _ _).bind fun b => Silent.leaves (silent_report _ _) ?_
      exact (ih _ (sub_block_lt more) _).bind fun rest => goesOn_pure _

theorem writeBlocks_goesOn (block : Nat) (bs : List Bytes) :
    GoesOn .writeToRam (writeBlocks block bs : SessionM δ Unit) := by
  have sendFrame (block : Nat) (frame : Bytes) :
      GoesOn .writeToRam (sendFrame block frame : SessionM δ (Option Unit)) := by
    refine (writeBytes_goesOn _).bind fun _ => goesOn_of_names ?_
    refine (during_listening readLine_follows Dialogue.listening_line).map fun reply => ?_
    split
    · exact .pure _
    · exact .after (silent_notify _) (.pure none)
  induction bs generalizing block with
  | nil => exact goesOn_pure ()
  | cons b rest ih =>
    exact (untilArrived_goesOn (sendFrame _ _) (goesOn_pure ()) _ _).bind fun _ => ih _

/-! ### Transfers -/

/-- The name due in a timeout of a call, by the calls before it: none for a write behind the
    command. -/
def nameDue (k : CommandKind) (pre : List Call) (c : Call) : Option CommandKind :=
  if c.isWrite ∧ sent pre ≠ [] then none else some k

omit [Transport δ] in
theorem due_of_names {action : SessionM δ α} (h : Names k 1 action) :
    Leaves (TimesOut (nameDue k)) action := by
  refine Leaves.mono h fun cs r here failure named failed timeout => ?_
  obtain ⟨pre, c, rfl, rfl⟩ := here.2 failure named failed timeout
  refine ⟨pre, c, rfl, (if_neg ?_).symm⟩
  rintro ⟨isWrite, behind⟩
  have once := here.1
  have some := List.length_pos_iff.mpr behind
  cases c with
  | write b o =>
    rw [sent_append, List.length_append, sent_write, List.length_singleton] at once
    omega
  | read n timeout o => cases isWrite
  | clear o => cases isWrite

/-- A command, and what goes on with it when it was answered. -/
theorem command_goesOn {c : Command} {next : Unit → SessionM δ α}
    (h : GoesOn c.kind (next ())) : Leaves (TimesOut (nameDue c.kind)) (command c >>= next) := by
  have first := (due_of_names (command_names c)).and (command_follows (δ := δ) c).leaves_sent
  refine first.bind (fun cs failure here => here.1.first) fun _ =>
    Leaves.mono h fun ds r there cs here => there.after fun pre last _ => ?_
  obtain ⟨-, input, -, all⟩ := here
  have asked : sent cs = [c.line] := (all rfl).1.trans (Dialogue.said_command c input)
  have behind : sent (cs ++ pre) ≠ [] := by rw [sent_append, asked]; simp
  simp only [nameDue, behind, ne_eq, not_false_eq_true, and_true]

omit [Transport δ] in
theorem due_of_silent {check : SessionM δ Unit} {next : Unit → SessionM δ α}
    (checked : Names k 0 check) (h : Leaves (TimesOut (nameDue k)) (next ())) :
    Leaves (TimesOut (nameDue k)) (check >>= next) := by
  have due := due_of_names (Leaves.mono checked fun _ _ here => ⟨Nat.le_succ_of_le here.1, here.2⟩)
  refine (checked.and due).bind (fun cs failure here => here.2.first) fun _ =>
    Leaves.mono h fun ds r there cs here => there.after fun pre last _ => ?_
  have silent : sent cs = [] := List.length_eq_zero_iff.mp (Nat.le_zero.mp here.1.1)
  simp only [nameDue, sent_append, silent, List.nil_append]

/-- To read memory raw takes no more than the command. -/
theorem readMemory_names (address count : UInt32) (progress : Bool) :
    Names .readMemory 1 (readMemory address count .raw progress : SessionM δ Bytes) := by
  have raw := during_listening (k := .readMemory) (readExact_follows (δ := δ) count.toNat)
    (Dialogue.listening_take _)
  refine (checkAlignment_names _ _ _).bind fun _ => (checkAlignment_names _ _ _).bind fun _ =>
    (command_names (.readMemory address count)).map fun _ => .after (silent_report _ _) ?_
  exact raw.map fun data => .after (silent_report _ _) (.pure data)

theorem readBlocks_due (address count : UInt32) (progress : Bool) :
    Leaves (TimesOut (nameDue .readMemory))
      (readMemory address count .lines progress : SessionM δ Bytes) := by
  refine due_of_silent (checkAlignment_names _ _ _) (due_of_silent (checkAlignment_names _ _ _) ?_)
  refine command_goesOn (Silent.leaves (silent_report _ _) ?_)
  have blocks := readBlocksFrom_goesOn (δ := δ) progress count.toNat 0 count.toNat
  exact GoesOn.bind (Silent.leaves (silent_notify _) blocks) fun data =>
    Silent.leaves (silent_report _ _) (goesOn_pure data)

theorem writeToRam_due (address : UInt32) (data : Bytes) (encoding : Encoding) :
    Leaves (TimesOut (nameDue .writeToRam))
      (writeToRam address data encoding : SessionM δ Unit) := by
  refine due_of_silent (checkAlignment_names _ _ _) (due_of_silent (checkAlignment_names _ _ _) ?_)
  refine command_goesOn ?_
  cases encoding with
  | raw => exact writeBytes_goesOn data
  | lines => exact writeBlocks_goesOn 0 _

end Session

/-! ## What a timeout names -/

namespace SessionCall

/-- The command that an operation runs, where it runs one. -/
def command? {α : Type} : SessionCall α → Option CommandKind
  | commandStatus c | command c => some c.kind
  | unlock => some .unlock
  | readPartId => some .readPartId
  | readUid => some .readUid
  | readBootVersion => some .readBootVersion
  | prepareForWrite .. => some .prepareForWrite
  | eraseSectors .. => some .erase
  | blankCheck .. => some .blankCheck
  | copyRamToFlash .. => some .copyRamToFlash
  | compare .. => some .compare
  | go .. => some .go
  | readMemory .. => some .readMemory
  | writeToRam .. => some .writeToRam
  | _ => none

/-- Whether an operation writes more than its command. -/
def transfers {α : Type} : SessionCall α → Bool
  | readMemory _ _ .lines _ | writeToRam .. => true
  | _ => false

variable [Transport δ] {k : CommandKind}

theorem names_of_command? {call : SessionCall α} (runs : call.command? = some k)
    (alone : call.transfers = false) : Names k 1 (call.run : SessionM δ α) := by
  cases call with
  | commandStatus c => exact Option.some.inj runs ▸ Session.commandStatus_names c
  | command c => exact Option.some.inj runs ▸ Session.command_names c
  | unlock => exact Option.some.inj runs ▸ Session.command_names _
  | readPartId =>
    exact Option.some.inj runs ▸ (Session.query_names .readPartId).map fun _ => .pure _
  | readUid => exact Option.some.inj runs ▸ (Session.query_names .readUid).map fun _ => .pure _
  | readBootVersion =>
    exact Option.some.inj runs ▸ (Session.query_names .readBootVersion).map fun _ => .pure _
  | prepareForWrite first last =>
    exact Option.some.inj runs ▸
      (Session.checkSectorRange_names _ _).bind fun _ => Session.command_names _
  | eraseSectors first last =>
    exact Option.some.inj runs ▸
      (Session.checkSectorRange_names _ _).bind fun _ => Session.command_names _
  | blankCheck first last => exact Option.some.inj runs ▸ Session.blankCheck_names _ _
  | copyRamToFlash flashAddress ramAddress size =>
    exact Option.some.inj runs ▸
      (Session.checkAlignment_names _ _ _).bind fun _ => Session.command_names _
  | compare address1 address2 size => exact Option.some.inj runs ▸ Session.compare_names _ _ _
  | go address mode => exact Option.some.inj runs ▸ Session.go_names _ _
  | readMemory address count encoding progress =>
    cases encoding with
    | raw => exact Option.some.inj runs ▸ Session.readMemory_names _ _ _
    | lines => cases alone
  | writeToRam address data encoding => cases alone
  | _ => cases runs

theorem due_of_command? {call : SessionCall α} (runs : call.command? = some k) :
    Leaves (TimesOut (Session.nameDue k)) (call.run : SessionM δ α) := by
  by_cases alone : call.transfers = false
  · exact Session.due_of_names (names_of_command? runs alone)
  · cases call with
    | readMemory address count encoding progress =>
      cases encoding with
      | raw => exact absurd rfl alone
      | lines => exact Option.some.inj runs ▸ Session.readBlocks_due _ _ _
    | writeToRam address data encoding =>
      exact Option.some.inj runs ▸ Session.writeToRam_due _ _ _
    | _ => exact absurd rfl alone

/-- **Timeouts name their command**, unless they come from a write behind it. -/
theorem timeouts_name_command (call : SessionCall α) (runs : call.command? = some k)
    (s : Session δ) : ∃ cs, calls (call.run s).2 = calls s ++ cs ∧
      ∀ failure named, (call.run s).1 = .error failure → failure.timeout? = some named →
        (∃ pre c, cs = pre ++ [c] ∧
          named = if c.isWrite ∧ sent pre ≠ [] then none else some k) ∧
        (call.transfers = false → named = some k) := by
  obtain ⟨cs, grown, due⟩ := due_of_command? runs s
  refine ⟨cs, grown, fun failure named failed timeout => ⟨due failure named failed timeout, ?_⟩⟩
  intro alone
  obtain ⟨ds, -, -, names⟩ := names_of_command? runs alone s
  obtain ⟨_, _, _, same⟩ := names failure named failed timeout
  exact same

/-- A device that sends what is asked of it, on a line that takes no second write. -/
def clogged (reply : String) : Session Scripted :=
  Session.start
    { replies := [Bytes.ascii reply], writeFaults := [(1, .system .timedOut "injected")] } {}

/-- The exceptions happen, with an answer to a block, with a block, and with raw data. -/
theorem timeouts_without_command :
    let block := clogged "0\r\n$````````\r\n0\r\n"
    let nameless : Failure := .connecting (.timeout none)
    ((readMemory 0 4 .lines false).run block).1 = .error nameless ∧
      ((writeToRam 0 [0, 0, 0, 0] .lines).run (clogged "0\r\n")).1 = .error nameless ∧
      ((writeToRam 0 [0, 0, 0, 0] .raw).run (clogged "0\r\n")).1 = .error nameless := by
  decide +kernel

/-- Such a timeout is told by the last call, and one of a device that is silent by its name. -/
theorem timeouts_name_command_clogged :
    let read : SessionCall Bytes := .readMemory 0 4 .lines false
    let block := clogged "0\r\n$````````\r\n0\r\n"
    (read.command? = some .readMemory ∧ ∃ pre c, calls (read.run block).2 = pre ++ [c] ∧
      c.isWrite ∧ sent pre ≠ []) ∧
    unlock.command? = some .unlock ∧ ∃ named,
      (unlock.run (clogged "")).1 = .error (.connecting (.timeout named)) ∧
        named = some .unlock := by
  intro read block
  constructor
  · have ended : (read.run block).1 = .error (.connecting (.timeout none)) := by decide +kernel
    obtain ⟨cs, grown, told⟩ := timeouts_name_command read rfl block
    obtain ⟨⟨pre, c, last, named⟩, -⟩ := told _ none ended rfl
    refine ⟨rfl, pre, c, grown.trans last, ?_⟩
    by_cases behind : c.isWrite ∧ sent pre ≠ []
    · exact behind
    · rw [if_neg behind] at named
      cases named
  · have ended : (unlock.run (clogged "")).1 = .error (.connecting (.timeout (some .unlock))) := by
      decide +kernel
    obtain ⟨cs, -, told⟩ := timeouts_name_command unlock rfl (clogged "")
    exact ⟨rfl, _, ended, (told _ _ ended rfl).2 rfl⟩

end SessionCall
end SerialIsp
