import SerialIsp.Proofs.Dialogue.Handshake
import SerialIsp.Proofs.Twins.Basic

/-!
# What twin sessions do

Every operation of a session agrees with itself on twins, with the same arguments but for those
that only say what is to be told: whether a failed handshake is told quietly, and whether
progress is wanted. Each lemma is read off the text of its operation.
-/

namespace SerialIsp.Session

open Wire

variable {α β δ ε : Type} [Transport δ] [Transport ε] {κ : Kinship δ ε} (lasts : κ.Lasts)

include lasts

/-! ## Reading and writing -/

theorem writeBytes_agrees (b : Bytes) : Agree (Twins κ) (writeBytes b) (writeBytes b) := by
  refine (traceNotice_agrees _).bind fun _ => ?_
  refine (callWrite_agrees lasts b).bind fun outcome => ?_
  refine (ofOutcome_agrees outcome).bind fun taken => ?_
  exact .ite (fun _ => agree_throw _) fun _ => agree_pure ()

theorem clearInput_agrees : Agree (Twins κ) clearInput clearInput := by
  have dropped : Agree (Twins κ) (modify fun s => { s with heldBack := none })
      (modify fun s => { s with heldBack := none }) := fun _ _ h =>
    ⟨rfl, h.device, h.patience, h.phase, h.timeout, h.crystal, rfl, h.since⟩
  exact dropped.bind fun _ => (callClear_agrees lasts).bind fun outcome => ofOutcome_agrees outcome

theorem readExact_agrees (n : Nat) : Agree (Twins κ) (readExact n) (readExact n) := by
  refine .ite (fun _ => agree_pure []) fun _ => takeHeldBack_agrees.bind fun held => ?_
  -- the checks on what arrived, which tell notices
  have checked (b : Bytes) : Agree (Twins κ) (do
      if 1 < n then traceNotice (.received b)
      if b.length < n then
        notify (.cutShort b.length n)
        failLink (.timeout none)
      return b) (do
      if 1 < n then traceNotice (.received b)
      if b.length < n then
        notify (.cutShort b.length n)
        failLink (.timeout none)
      return b) := by
    have last : Agree (Twins κ) (do
        if b.length < n then
          notify (.cutShort b.length n)
          failLink (.timeout none)
        return b) (do
        if b.length < n then
          notify (.cutShort b.length n)
          failLink (.timeout none)
        return b) :=
      .ite (fun _ => (notify_agrees _).bind fun _ => agree_throw _)
        fun _ => agree_pure b
    exact .ite (fun _ => (traceNotice_agrees _).bind fun _ => last)
      fun _ => last
  refine .ite (fun _ => ?_) fun _ => checked _
  exact (callRead_agrees lasts _).bind fun outcome =>
    (ofOutcome_agrees outcome).bind fun arrived => checked _

theorem readByte_agrees : Agree (Twins κ) readByte readByte :=
  (readExact_agrees lasts 1).bind fun _ => agree_pure _

theorem finishLine_agrees : Agree (Twins κ) finishLine finishLine :=
  (readByte_agrees lasts).bind fun c => .ite (fun _ => holdBack_agrees c) fun _ => agree_pure ()

theorem readLineFrom_agrees (line : Bytes) (room : Nat) :
    Agree (Twins κ) (readLineFrom line room) (readLineFrom line room) := by
  induction room generalizing line with
  | zero =>
    rw [readLineFrom, readLineFrom]
    refine (readByte_agrees lasts).bind fun c => .ite (fun _ => agree_pure line) fun _ => ?_
    exact .ite (fun _ => (finishLine_agrees lasts).bind fun _ => agree_pure line)
      fun _ => agree_throw _
  | succ room ih =>
    rw [readLineFrom, readLineFrom]
    refine (readByte_agrees lasts).bind fun c => .ite (fun _ => agree_pure line) fun _ => ?_
    exact .ite (fun _ => (finishLine_agrees lasts).bind fun _ => agree_pure line) fun _ => ih _

theorem readLine_agrees : Agree (Twins κ) readLine readLine :=
  (readLineFrom_agrees lasts [] lineLimit).bind fun _ =>
    (traceNotice_agrees _).bind fun _ => agree_pure _

theorem drainLine_agrees : Agree (Twins κ) drainLine drainLine := by
  intro s t h
  -- every byte read lowers the bound on those still to come
  induction bound : s.pending using Nat.strongRecOn generalizing s t with
  | ind n ih =>
    obtain ⟨same, related⟩ := readByte_agrees lasts s t h
    rw [drainLine_eq (δ := δ), drainLine_eq (δ := ε), bind_apply, bind_apply]
    rcases read : readByte s with ⟨result, s'⟩
    rcases read' : readByte t with ⟨result', t'⟩
    rw [read, read'] at same related
    obtain rfl : result = result' := same
    cases result with
    | error failure => exact ⟨rfl, related⟩
    | ok c =>
      dsimp only
      split
      · exact ⟨rfl, related⟩
      · split
        · exact finishLine_agrees lasts s' t' related
        · exact ih _ (bound ▸ pending_of_readByte read) s' t' related rfl

theorem readNumber_agrees : Agree (Twins κ) readNumber readNumber := by
  refine (readLine_agrees lasts).bind fun line => ?_
  cases Text.readNumber 10 Text.limit32 (Text.trim line.toList) with
  | ok n => exact agree_pure _
  | error fault => exact agree_throw _

theorem readStatus_agrees : Agree (Twins κ) readStatus readStatus := by
  refine (readExact_agrees lasts statusLength).bind fun reply => ?_
  dsimp only
  cases Text.readNumber 10 Text.limit32
      ((reply.takeWhile isDigit).map fun c => Char.ofNat c.toNat) with
  | error fault => exact agree_throw _
  | ok n =>
    refine .ite (fun _ => agree_pure _) fun _ => .ite (fun _ => ?_) fun _ => ?_
    · exact (finishLine_agrees lasts).bind fun _ => agree_pure _
    · exact (drainLine_agrees lasts).bind fun _ => agree_pure _

/-! ## Commands -/

theorem commandStatus_agrees (c : Command) :
    Agree (Twins κ) (commandStatus c) (commandStatus c) := by
  refine (notify_agrees _).bind fun _ => .get fun s t h => ?_
  rw [h.patience]
  refine (during_agrees c.kind (withTimeout_agrees _ ?_)).bind fun status => ?_
  · exact (writeBytes_agrees lasts _).bind fun _ => readStatus_agrees lasts
  · exact (traceNotice_agrees _).bind fun _ => agree_pure status

/-- A refusal is told only where it was not traced before. -/
theorem command_agrees (c : Command) : Agree (Twins κ) (command c) (command c) := by
  refine (commandStatus_agrees lasts c).bind fun status =>
    .ite (fun _ => .get fun s t h => ?_) fun _ => agree_pure ()
  have refused : Agree (Twins κ) (throw (.refused c.kind status) : SessionM δ Unit)
      (throw (.refused c.kind status)) := agree_throw _
  split
  · refine (tells_notify _).before ?_
    split
    · exact (tells_notify _).before' refused
    · exact refused
  · split
    · exact (tells_notify _).before' refused
    · exact refused

theorem replyNumber_agrees (kind : CommandKind) :
    Agree (Twins κ) (replyNumber kind) (replyNumber kind) :=
  during_agrees kind (readNumber_agrees lasts)

theorem replyNumbers_agrees (kind : CommandKind) (n : Nat) :
    Agree (Twins κ) (replyNumbers kind n) (replyNumbers kind n) := by
  induction n with
  | zero => exact agree_pure []
  | succ n ih =>
    exact (replyNumber_agrees lasts kind).bind fun first => ih.bind fun _ => agree_pure _

theorem query_agrees (c : Command) : Agree (Twins κ) (query c) (query c) :=
  (command_agrees lasts c).bind fun _ => replyNumbers_agrees lasts _ _

theorem unlock_agrees : Agree (Twins κ) unlock unlock := command_agrees lasts _

theorem readPartId_agrees : Agree (Twins κ) readPartId readPartId :=
  (query_agrees lasts _).bind fun _ => agree_pure _

theorem readUid_agrees : Agree (Twins κ) readUid readUid :=
  (query_agrees lasts _).bind fun _ => agree_pure _

theorem readBootVersion_agrees : Agree (Twins κ) readBootVersion readBootVersion :=
  (query_agrees lasts _).bind fun _ => agree_pure _

theorem prepareForWrite_agrees (first last : UInt32) :
    Agree (Twins κ) (prepareForWrite first last) (prepareForWrite first last) :=
  (ofExcept_agrees _).bind fun _ => command_agrees lasts _

theorem eraseSectors_agrees (first last : UInt32) :
    Agree (Twins κ) (eraseSectors first last) (eraseSectors first last) :=
  (ofExcept_agrees _).bind fun _ => command_agrees lasts _

theorem blankCheck_agrees (first last : UInt32) :
    Agree (Twins κ) (blankCheck first last) (blankCheck first last) := by
  refine (ofExcept_agrees _).bind fun _ => (commandStatus_agrees lasts _).bind fun status => ?_
  split
  · exact agree_pure _
  · refine (replyNumber_agrees lasts _).bind fun offset => ?_
    exact (replyNumber_agrees lasts _).bind fun content => agree_pure _
  · exact agree_throw _

theorem copyRamToFlash_agrees (flashAddress ramAddress size : UInt32) :
    Agree (Twins κ) (copyRamToFlash flashAddress ramAddress size)
      (copyRamToFlash flashAddress ramAddress size) :=
  (ofExcept_agrees _).bind fun _ => command_agrees lasts _

theorem compare_agrees (address1 address2 size : UInt32) :
    Agree (Twins κ) (compare address1 address2 size) (compare address1 address2 size) := by
  refine (ofExcept_agrees _).bind fun _ => (ofExcept_agrees _).bind fun _ => ?_
  refine (ofExcept_agrees _).bind fun _ => (commandStatus_agrees lasts _).bind fun status => ?_
  split
  · exact agree_pure _
  · exact (replyNumber_agrees lasts _).bind fun _ => agree_pure _
  · exact agree_throw _

theorem go_agrees (address : UInt32) (mode : ExecutionMode) :
    Agree (Twins κ) (go address mode) (go address mode) :=
  .ite (fun _ => agree_throw _) fun _ => command_agrees lasts _

/-! ## The handshake -/

omit lasts [Transport δ] [Transport ε] in
theorem failHandshake_agrees :
    Agree (Twins κ) (failHandshake : SessionM δ α) (failHandshake : SessionM ε α) :=
  .get fun s t h => by
    rw [h.phase]
    exact agree_throw _

theorem awaitSync_agrees : Agree (Twins κ) awaitSync awaitSync :=
  (readExact_agrees lasts _).bind fun _ =>
    .ite (fun _ => failHandshake_agrees) fun _ => agree_pure ()

theorem awaitOk_agrees : Agree (Twins κ) awaitOk awaitOk := by
  refine (drainLine_agrees lasts).bind fun _ => (readLine_agrees lasts).bind fun line => ?_
  refine .ite (fun _ => ?_) fun _ => agree_pure ()
  exact (notify_agrees _).bind fun _ => failHandshake_agrees

theorem awaitSilence_agrees : Agree (Twins κ) awaitSilence awaitSilence :=
  (drainLine_agrees lasts).bind fun _ => (readStatus_agrees lasts).bind fun _ =>
    notify_agrees _

theorem meet_agrees (crystal : UInt32) : Agree (Twins κ) (meet crystal) (meet crystal) := by
  refine (writeBytes_agrees lasts _).bind fun _ => (enter_agrees _).bind fun _ => ?_
  refine (awaitSync_agrees lasts).bind fun _ => (writeBytes_agrees lasts _).bind fun _ => ?_
  refine (enter_agrees _).bind fun _ => (awaitOk_agrees lasts).bind fun _ => ?_
  exact (writeBytes_agrees lasts _).bind fun _ => awaitOk_agrees lasts

theorem silence_agrees : Agree (Twins κ) silence silence := by
  refine (writeBytes_agrees lasts _).bind fun _ => (awaitSilence_agrees lasts).bind fun _ => ?_
  exact (enter_agrees _).bind fun _ => enter_agrees _

theorem handshake_agrees (crystal : UInt32) :
    Agree (Twins κ) (handshake crystal) (handshake crystal) := by
  have remembered : Agree (Twins κ) (modify fun s => { s with crystal := some crystal })
      (modify fun s => { s with crystal := some crystal }) := fun _ _ h =>
    ⟨rfl, h.device, h.patience, h.phase, h.timeout, lasts.crystal crystal, h.heldBack, h.since⟩
  rw [handshake_eq, handshake_eq]
  refine (meet_agrees lasts crystal).bind fun _ => (enter_agrees _).bind fun _ => ?_
  exact remembered.bind fun _ => silence_agrees lasts

/-- A failure is told in different ways, but it is the same. -/
theorem synchronize_agrees (crystal : UInt32) (quiet quiet' : Bool) :
    Agree (Twins κ) (synchronize crystal quiet) (synchronize crystal quiet') := by
  have opened : Agree (Twins κ) (modify fun s => { s with phase := .unsynced, heldBack := none })
      (modify fun s => { s with phase := .unsynced, heldBack := none }) := fun _ _ h =>
    ⟨rfl, h.device, h.patience, rfl, h.timeout, h.crystal, rfl, h.since⟩
  refine opened.bind fun _ => ?_
  refine (attempt_agrees (handshake_agrees lasts crystal)).bind fun result => ?_
  cases result with
  | ok _ => exact notify_agrees _
  | error failure =>
    refine .get fun s t h => (enter_agrees _).bind fun _ => ?_
    exact ((tells_notify _).agree (tells_notify _)).bind fun _ => agree_throw _

/-! ## Identifying a device -/

theorem probe_agrees : Agree (Twins κ) probe probe := by
  refine (notify_agrees _).bind fun _ => ?_
  refine (clearInput_agrees lasts).bind fun _ => ?_
  refine (attempt_agrees (readPartId_agrees lasts)).bind fun result => ?_
  cases result with
  | ok id => exact clearInput_agrees lasts
  | error failure =>
    exact (notify_agrees _).bind fun _ => clearInput_agrees lasts

theorem identify_agrees : Agree (Twins κ) identify identify := by
  refine (attempt_agrees (readPartId_agrees lasts)).bind fun result => ?_
  split
  · exact agree_pure _
  · exact agree_throw _
  · exact agree_throw _

omit lasts [Transport δ] [Transport ε] in
theorem describeBy_agrees (read : Text.LiteralReader) (source : Part.Source) (fs : Files)
    (id : UInt64) :
    Agree (Twins κ) (describeBy read source fs id) (describeBy read source fs id) := by
  refine (ofExcept_agrees _).bind fun part => ?_
  refine (notify_agrees _).bind fun _ => ?_
  exact (ofExcept_agrees _).bind fun _ => agree_pure part

/-- What is done once the device is ready to be asked. -/
def ask (read : Text.LiteralReader) (source : Part.Source) (fs : Files) : SessionM δ Part := do
  let id ← identify
  assumeSynchronized
  let part ← describeBy read source fs id.toUInt64
  notify (.connected part.name id)
  return part

theorem ask_agrees (read : Text.LiteralReader) (source : Part.Source) (fs : Files) :
    Agree (Twins κ) (ask read source fs) (ask read source fs) := by
  refine (identify_agrees lasts).bind fun id => (enter_agrees _).bind fun _ => ?_
  refine (describeBy_agrees read source fs _).bind fun part => ?_
  exact (notify_agrees _).bind fun _ => agree_pure part

theorem connectBy_agrees (read : Text.LiteralReader) (crystal : UInt32) (source : Part.Source)
    (fs : Files) :
    Agree (Twins κ) (connectBy read crystal source fs) (connectBy read crystal source fs) := by
  refine (attempt_agrees (synchronize_agrees lasts crystal true true)).bind fun result => ?_
  cases result with
  | ok _ => exact ask_agrees lasts read source fs
  | error failure => exact (probe_agrees lasts).bind fun _ => ask_agrees lasts read source fs

theorem deviceInfo_agrees (part : Part) : Agree (Twins κ) (deviceInfo part) (deviceInfo part) := by
  refine (readPartId_agrees lasts).bind fun partId => (readUid_agrees lasts).bind fun uid => ?_
  exact (readBootVersion_agrees lasts).bind fun version => agree_pure _

/-! ## Memory transfers -/

theorem readSum_agrees : Agree (Twins κ) readSum readSum := by
  refine (attempt_agrees (readNumber_agrees lasts)).bind fun result => ?_
  split
  · exact agree_pure _
  · exact (notify_agrees _).bind fun _ => agree_pure _
  · exact agree_throw _

theorem receiveBlock_agrees (block length : Nat) :
    Agree (Twins κ) (receiveBlock block length) (receiveBlock block length) := by
  refine (during_agrees _ (readExact_agrees lasts _)).bind fun encoded => ?_
  refine (readSum_agrees lasts).bind fun sum => ?_
  cases decode encoded with
  | ok b => exact agree_pure _
  | error cut => exact (notify_agrees _).bind fun _ => agree_pure _

omit lasts [Transport δ] [Transport ε] in
theorem untilArrived_agrees {block : Nat} {sending : SessionM δ (Option α)}
    {sending' : SessionM ε (Option α)} {again : SessionM δ Unit} {again' : SessionM ε Unit}
    (h : Agree (Twins κ) sending sending') (h' : Agree (Twins κ) again again') (resends : Nat) :
    Agree (Twins κ) (untilArrived block sending again resends)
      (untilArrived block sending' again' resends) := by
  induction resends with
  | zero =>
    rw [untilArrived, untilArrived]
    refine h.bind fun arrived => ?_
    cases arrived with
    | some a => exact agree_pure a
    | none => exact agree_throw _
  | succ left ih =>
    rw [untilArrived, untilArrived]
    refine h.bind fun arrived => ?_
    cases arrived with
    | some a => exact agree_pure a
    | none => exact (notify_agrees _).bind fun _ => h'.bind fun _ => ih

theorem readBlock_agrees (block length : Nat) :
    Agree (Twins κ) (readBlock block length) (readBlock block length) := by
  refine (untilArrived_agrees (receiveBlock_agrees lasts _ _) (writeBytes_agrees lasts _)
    maxResends).bind fun b => ?_
  exact (writeBytes_agrees lasts _).bind fun _ => agree_pure b

theorem readBlocksFrom_agrees (progress progress' : Bool) (count block left : Nat) :
    Agree (Twins κ) (readBlocksFrom progress count block left)
      (readBlocksFrom progress' count block left) := by
  induction left using Nat.strongRecOn generalizing block with
  | ind left ih =>
    rw [readBlocksFrom, readBlocksFrom]
    by_cases none : left = 0
    · simp only [none, ↓reduceDIte]
      exact agree_pure []
    · simp only [none, ↓reduceDIte]
      refine (readBlock_agrees lasts _ _).bind fun b => ?_
      refine (report_agrees progress progress' _).bind fun _ => ?_
      have some : 0 < blockCapacity := by decide
      exact (ih _ (by omega) _).bind fun rest => agree_pure _

theorem readMemory_agrees (address count : UInt32) (encoding : Encoding)
    (progress progress' : Bool) : Agree (Twins κ) (readMemory address count encoding progress)
      (readMemory address count encoding progress') := by
  have reported (p : Progress) : Agree (Twins κ) (report progress p) (report progress' p) :=
    report_agrees progress progress' p
  refine (ofExcept_agrees _).bind fun _ => (ofExcept_agrees _).bind fun _ => ?_
  refine (command_agrees lasts _).bind fun _ => (reported _).bind fun _ => ?_
  have last (data : Bytes) : Agree (Twins κ) (do report progress .finish; return data)
      (do report progress' .finish; return data) := (reported _).bind fun _ => agree_pure data
  cases encoding with
  | raw => exact (during_agrees _ (readExact_agrees lasts _)).bind last
  | lines =>
    refine Agree.bind ?_ last
    refine (notify_agrees _).bind fun _ => ?_
    exact readBlocksFrom_agrees lasts _ _ _ _ _

theorem sendFrame_agrees (block : Nat) (frame : Bytes) :
    Agree (Twins κ) (sendFrame block frame) (sendFrame block frame) := by
  refine (writeBytes_agrees lasts frame).bind fun _ => ?_
  refine (during_agrees _ (readLine_agrees lasts)).bind fun reply => ?_
  refine .ite (fun _ => agree_pure _) fun _ => ?_
  exact (notify_agrees _).bind fun _ => agree_pure _

theorem writeBlocks_agrees (block : Nat) (bs : List Bytes) :
    Agree (Twins κ) (writeBlocks block bs) (writeBlocks block bs) := by
  induction bs generalizing block with
  | nil => exact agree_pure ()
  | cons b bs ih =>
    refine Agree.bind ?_ fun _ => ih (block + 1)
    exact untilArrived_agrees (sendFrame_agrees lasts _ _) (agree_pure ()) maxResends

theorem writeToRam_agrees (address : UInt32) (data : Bytes) (encoding : Encoding) :
    Agree (Twins κ) (writeToRam address data encoding) (writeToRam address data encoding) := by
  refine (ofExcept_agrees _).bind fun _ => (ofExcept_agrees _).bind fun _ => ?_
  refine (command_agrees lasts _).bind fun _ => ?_
  cases encoding with
  | raw => exact writeBytes_agrees lasts data
  | lines => exact writeBlocks_agrees lasts 0 _

end SerialIsp.Session
