import SerialIsp.Proofs.Handshake
import SerialIsp.Proofs.Reading
import SerialIsp.Proofs.Runs

/-!
# How long a device can hold a session

A session waits for a device inside read calls, and each of them has a timeout. A device that
falls silent is given up with the call that brings nothing. One that keeps sending is another
matter: it holds the session for as many calls as the operation is ready to make.

To read a line is to make 66 calls at most, since a line of more than 64 bytes is a malformed
reply. To drop one has no such limit. Replies to commands are dropped up to the end of their
line, and so are the three echoes of a handshake, each at the cost of a call for every byte
(`reads_bounded_by_lines`). What bounds these operations is the longest line that was sent,
so no constant does (`no_bound_on_reads`).
-/

namespace SerialIsp

variable {δ σ α β : Type}

/-! ## Counting -/

def Call.isRead : Call → Bool
  | .read .. => true
  | _ => false

/-- The number of read calls. -/
def readCalls (cs : List Call) : Nat := cs.countP Call.isRead

/-- The bytes in front of the first line end. -/
def lineLength (b : Bytes) : Nat := (b.takeWhile fun c => c ≠ Bytes.cr ∧ c ≠ Bytes.lf).length

/-- The length of the longest stretch without a line end. -/
def longestLine : Bytes → Nat
  | [] => 0
  | c :: b => max (lineLength (c :: b)) (longestLine b)

@[simp] theorem readCalls_append (cs ds : List Call) :
    readCalls (cs ++ ds) = readCalls cs + readCalls ds := List.countP_append

theorem lineLength_cons {c : UInt8} (notCr : c ≠ Bytes.cr) (notLf : c ≠ Bytes.lf) (b : Bytes) :
    lineLength (c :: b) = lineLength b + 1 := by
  simp [lineLength, notCr, notLf]

theorem lineLength_append (a b : Bytes) : lineLength a ≤ lineLength (a ++ b) := by
  induction a with
  | nil => exact Nat.zero_le _
  | cons c a ih =>
    unfold lineLength at *
    rw [List.cons_append, List.takeWhile_cons, List.takeWhile_cons]
    split
    · exact Nat.succ_le_succ ih
    · exact Nat.le_refl _

theorem lineLength_le_longestLine (b : Bytes) : lineLength b ≤ longestLine b := by
  cases b with
  | nil => exact Nat.le_refl _
  | cons c b => exact Nat.le_max_left ..

theorem longestLine_append_left (a b : Bytes) : longestLine a ≤ longestLine (a ++ b) := by
  induction a with
  | nil => exact Nat.zero_le _
  | cons c a ih =>
    have first := lineLength_append (c :: a) b
    rw [List.cons_append] at first ⊢
    rw [longestLine, longestLine]
    omega

theorem longestLine_append_right (a b : Bytes) : longestLine b ≤ longestLine (a ++ b) := by
  induction a with
  | nil => exact Nat.le_refl _
  | cons c a ih => exact Nat.le_trans ih (Nat.le_max_right ..)

/-! ## Actions with few reads -/

section

variable [OnLine σ]

/-- An action that makes `n` read calls at most, and `lines` times as many as the longest line
    has bytes among those that arrive. -/
def ReadsAtMost (lines n : Nat) (action : ExceptT Failure (StateM σ) α) : Prop :=
  Leaves (fun cs _ => readCalls cs ≤ lines * longestLine (received cs) + n) action

namespace ReadsAtMost

variable {lines lines' n n' : Nat} {action : ExceptT Failure (StateM σ) α}

theorem pure (a : α) : ReadsAtMost 0 0 (Pure.pure a : ExceptT Failure (StateM σ) α) :=
  leaves_pure (Nat.zero_le _)

theorem throw (failure : Failure) :
    ReadsAtMost 0 0 (MonadExcept.throw failure : ExceptT Failure (StateM σ) α) :=
  leaves_throw (Nat.zero_le _)

theorem mono (h : ReadsAtMost lines n action) (fewer : lines ≤ lines') (less : n ≤ n') :
    ReadsAtMost lines' n' action :=
  Leaves.mono h fun cs _ here => by
    have := Nat.mul_le_mul_right (longestLine (received cs)) fewer
    omega

/-- Calls add up, and so do the lines that are dropped. -/
theorem bind {next : α → ExceptT Failure (StateM σ) β} (first : ReadsAtMost lines n action)
    (second : ∀ a, ReadsAtMost lines' n' (next a)) :
    ReadsAtMost (lines + lines') (n + n') (action >>= next) := by
  refine Leaves.bind first (fun cs failure here => ?_) fun a =>
    Leaves.mono (second a) fun ds r there cs here => ?_
  · rw [Nat.add_mul]
    omega
  · rw [readCalls_append, received_append, Nat.add_mul]
    have early := Nat.mul_le_mul_left lines (longestLine_append_left (received cs) (received ds))
    have late := Nat.mul_le_mul_left lines' (longestLine_append_right (received cs) (received ds))
    omega

/-- What reads nothing costs nothing. -/
theorem free {next : α → ExceptT Failure (StateM σ) β} (first : ReadsAtMost 0 0 action)
    (second : ∀ a, ReadsAtMost lines n (next a)) : ReadsAtMost lines n (action >>= next) :=
  (first.bind second).mono (Nat.le_of_eq (Nat.zero_add _)) (Nat.le_of_eq (Nat.zero_add _))

/-- A read call, and then the rest. -/
theorem one {next : α → ExceptT Failure (StateM σ) β} (first : ReadsAtMost 0 1 action)
    (second : ∀ a, ReadsAtMost lines n (next a)) : ReadsAtMost lines (n + 1) (action >>= next) :=
  (first.bind second).mono (Nat.le_of_eq (Nat.zero_add _)) (Nat.le_of_eq (Nat.add_comm ..))

theorem after {quiet : ExceptT Failure (StateM σ) Unit}
    {next : Unit → ExceptT Failure (StateM σ) α} (silent : Silent quiet)
    (h : ReadsAtMost lines n (next ())) : ReadsAtMost lines n (quiet >>= next) :=
  Silent.leaves silent h

theorem nothing {quiet : ExceptT Failure (StateM σ) Unit} (silent : Silent quiet) :
    ReadsAtMost 0 0 quiet := by
  intro s
  obtain ⟨s', run, sameCalls, -⟩ := silent s
  exact ⟨[], by rw [run, sameCalls, List.append_nil], Nat.zero_le _⟩

theorem map {next : α → ExceptT Failure (StateM σ) β} (h : ReadsAtMost lines n action)
    (quiet : ∀ a, ReadsAtMost 0 0 (next a)) : ReadsAtMost lines n (action >>= next) := h.bind quiet

theorem ite {c : Prop} [Decidable c] {other : ExceptT Failure (StateM σ) α}
    (h : ReadsAtMost lines n action) (h' : ReadsAtMost lines n other) :
    ReadsAtMost lines n (if c then action else other) := Leaves.ite h h'

/-- Wrappers that leave the calls alone leave their number alone. -/
theorem wrap {action' : ExceptT Failure (StateM σ) β} (h : ReadsAtMost lines n action)
    (same : ∀ s, ∃ t, calls t = calls s ∧ calls (action' s).2 = calls (action t).2) :
    ReadsAtMost lines n action' := by
  intro s
  obtain ⟨t, before, after⟩ := same s
  obtain ⟨cs, grown, here⟩ := h t
  exact ⟨cs, by rw [after, grown, before], here⟩

end ReadsAtMost

end

namespace Session

/-! ## The reads of each operation -/

theorem silent_enter (phase : Phase) : Silent (enter phase : SessionM δ Unit) :=
  fun _ => ⟨_, rfl, rfl, rfl⟩

variable [Transport δ]

theorem callRead_readsAtMost (n : Nat) :
    ReadsAtMost 0 1 (callRead n : SessionM δ (Except PortFault Bytes)) := fun s =>
  ⟨[.read n s.timeout (Transport.read s.device n s.timeout).1], Array.toList_push,
    Nat.le_add_left ..⟩

theorem writeBytes_readsAtMost (b : Bytes) : ReadsAtMost 0 0 (writeBytes b : SessionM δ Unit) := by
  intro s
  obtain ⟨notices, run⟩ := writeBytes_apply b s
  refine ⟨[.write b (Transport.write s.device b).1], ?_, Nat.zero_le _⟩
  rw [run]
  exact Array.toList_push

theorem readExact_readsAtMost (n : Nat) : ReadsAtMost 0 1 (readExact n : SessionM δ Bytes) := by
  -- what is done with the bytes that arrived needs no call
  have checked (b : Bytes) : ReadsAtMost 0 0 (do
      if 1 < n then traceNotice (.received b)
      if b.length < n then
        notify (.cutShort b.length n)
        failLink (.timeout none)
      return b : SessionM δ Bytes) := by
    have last : ReadsAtMost 0 0 (do
        if b.length < n then
          notify (.cutShort b.length n)
          failLink (.timeout none)
        return b : SessionM δ Bytes) :=
      .ite (.after (silent_notify _) (.map (.throw _) fun _ => .pure b)) (.pure b)
    exact .ite (.after (silent_traceNotice _) last) last
  refine .ite (.mono (.pure []) (Nat.le_refl _) (Nat.zero_le _)) ?_
  have taken : ReadsAtMost 0 0 (takeHeldBack : SessionM δ Bytes) := fun s =>
    ⟨[], (List.append_nil _).symm, Nat.zero_le _⟩
  refine taken.free fun held => ?_
  refine .ite ?_ ?_
  · refine (callRead_readsAtMost _).map fun outcome => ?_
    cases outcome with
    | ok b => exact checked _
    | error fault => exact .map (.throw _) fun b => checked (held ++ b)
  · exact (checked _).mono (Nat.le_refl _) (Nat.zero_le _)

/-- A byte comes out of a call of its own, unless it was held back. -/
theorem readByte_leaves : Leaves (fun cs r => readCalls cs ≤ 1 ∧
      ∀ c, r = .ok c → received cs = [] ∧ readCalls cs = 0 ∨ received cs = [c])
    (readByte : SessionM δ UInt8) := by
  intro s
  rw [readByte_eq]
  cases s.heldBack with
  | some c => exact ⟨[], (List.append_nil _).symm, Nat.zero_le _, fun _ _ => .inl ⟨rfl, rfl⟩⟩
  | none =>
    dsimp only
    rcases call : Transport.read s.device 1 s.timeout with ⟨fault | _ | ⟨c, rest⟩, device⟩
    · exact ⟨_, Array.toList_push, Nat.le_refl _, nofun⟩
    · exact ⟨_, Array.toList_push, Nat.le_refl _, nofun⟩
    · refine ⟨_, Array.toList_push, Nat.le_refl _, fun c' same => .inr ?_⟩
      obtain rfl : rest = [] := by
        have fits := Transport.length_read_le call
        exact List.length_eq_zero_iff.mp (Nat.le_zero.mp (Nat.le_of_succ_le_succ fits))
      cases same
      rfl

theorem readByte_readsAtMost : ReadsAtMost 0 1 (readByte : SessionM δ UInt8) :=
  (readExact_readsAtMost 1).map fun _ => .pure _

theorem finishLine_readsAtMost : ReadsAtMost 0 1 (finishLine : SessionM δ Unit) := by
  refine readByte_readsAtMost.map fun c => ?_
  split
  · exact fun s => ⟨[], (List.append_nil _).symm, Nat.zero_le _⟩
  · exact .pure ()

/-- Every byte there is room for is a call, and so are the one too many and the one behind a
    carriage return. -/
theorem readLineFrom_readsAtMost (line : Bytes) (room : Nat) :
    ReadsAtMost 0 (room + 2) (readLineFrom line room : SessionM δ Bytes) := by
  have ended (line : Bytes) : ReadsAtMost 0 1 (do finishLine; return line : SessionM δ Bytes) :=
    finishLine_readsAtMost.map fun _ => .pure line
  have done (line : Bytes) (n : Nat) : ReadsAtMost 0 n (pure line : SessionM δ Bytes) :=
    .mono (.pure line) (Nat.le_refl _) (Nat.zero_le _)
  induction room generalizing line with
  | zero =>
    rw [readLineFrom]
    refine readByte_readsAtMost.one fun c => ?_
    refine .ite (done line 1) (.ite (ended line) ?_)
    exact .mono (.throw _) (Nat.le_refl _) (Nat.zero_le _)
  | succ room ih =>
    rw [readLineFrom]
    refine readByte_readsAtMost.one fun c => ?_
    refine .ite (done line (room + 2)) (.ite ?_ (ih (line ++ [c])))
    exact (ended line).mono (Nat.le_refl _) (Nat.le_add_left ..)

theorem readLine_readsAtMost : ReadsAtMost 0 66 (readLine : SessionM δ String) :=
  (readLineFrom_readsAtMost [] lineLimit).map fun _ => .after (silent_traceNotice _) (.pure _)

/-- **A line that is dropped** costs a call for each of its bytes. -/
theorem drainLine_leaves : Leaves (fun cs _ => readCalls cs ≤ lineLength (received cs) + 2)
    (drainLine : SessionM δ Unit) := by
  intro s
  -- every byte read lowers the bound on those still to come
  induction bound : s.pending using Nat.strongRecOn generalizing s with
  | ind n ih =>
    obtain ⟨cs, grown, few, arrived⟩ := readByte_leaves s
    rw [drainLine_eq, bind_apply]
    rcases read : readByte s with ⟨failure | c, s'⟩
    · rw [read] at grown
      exact ⟨cs, grown, by omega⟩
    rw [read] at grown arrived
    dsimp only
    by_cases lf : c = Bytes.lf
    · rw [if_pos lf]
      exact ⟨cs, grown, by omega⟩
    rw [if_neg lf]
    by_cases cr : c = Bytes.cr
    · rw [if_pos cr]
      obtain ⟨ds, grown', few'⟩ := finishLine_readsAtMost s'
      refine ⟨cs ++ ds, by rw [grown', grown, List.append_assoc], ?_⟩
      rw [readCalls_append]
      omega
    · rw [if_neg cr]
      obtain ⟨ds, grown', few'⟩ := ih _ (bound ▸ pending_of_readByte read) s' rfl
      refine ⟨cs ++ ds, by rw [grown', grown, List.append_assoc], ?_⟩
      rw [readCalls_append, received_append]
      rcases arrived c rfl with ⟨none, free⟩ | one
      · rw [none, List.nil_append]
        omega
      · rw [one, List.singleton_append, lineLength_cons cr lf]
        omega

theorem drainLine_readsAtMost : ReadsAtMost 1 2 (drainLine : SessionM δ Unit) :=
  drainLine_leaves.mono fun cs _ few => by
    have := lineLength_le_longestLine (received cs)
    omega

theorem readStatus_readsAtMost : ReadsAtMost 1 3 (readStatus : SessionM δ Wire.Status) := by
  refine (readExact_readsAtMost statusLength).one fun reply => ?_
  dsimp only
  cases Text.readNumber 10 Text.limit32
      ((reply.takeWhile isDigit).map fun c => Char.ofNat c.toNat) with
  | error fault => exact .mono (.throw _) (Nat.zero_le _) (Nat.zero_le _)
  | ok n =>
    refine .ite (.mono (.pure _) (Nat.zero_le _) (Nat.zero_le _)) (.ite ?_ ?_)
    · exact (finishLine_readsAtMost.map fun _ => .pure _).mono (Nat.zero_le _) (by omega)
    · exact drainLine_readsAtMost.map fun _ => .pure _

theorem commandStatus_readsAtMost (c : Wire.Command) :
    ReadsAtMost 1 3 (commandStatus c : SessionM δ Wire.Status) := by
  have asked : ReadsAtMost 1 3 (do writeBytes c.line; readStatus : SessionM δ Wire.Status) :=
    (writeBytes_readsAtMost c.line).free fun _ => readStatus_readsAtMost
  refine .after (silent_notify _) (Leaves.get fun s => ?_)
  refine ReadsAtMost.map (asked.wrap fun s' =>
    ⟨{ s' with timeout := max c.kind.patience s.settings.timeout }, rfl, ?_⟩) fun status =>
    .after (silent_traceNotice _) (.pure status)
  unfold during withTimeout
  rcases (writeBytes c.line >>= fun _ => readStatus : SessionM δ Wire.Status)
    { s' with timeout := max c.kind.patience s.settings.timeout } with ⟨_ | _, _⟩
  · rfl
  · rfl

/-! The turns of a handshake. Each drops an echo, and the last one the end of a status as well. -/

theorem awaitSync_readsAtMost : ReadsAtMost 0 1 (awaitSync : SessionM δ Unit) := by
  refine (readExact_readsAtMost _).map fun reply => .ite ?_ (.pure ())
  exact Leaves.get fun s => ReadsAtMost.throw _

theorem awaitOk_readsAtMost : ReadsAtMost 1 68 (awaitOk : SessionM δ Unit) := by
  refine drainLine_readsAtMost.bind fun _ => readLine_readsAtMost.map fun line => ?_
  refine .ite (.after (silent_notify _) ?_) (.pure ())
  exact Leaves.get fun s => ReadsAtMost.throw _

theorem awaitSilence_readsAtMost : ReadsAtMost 2 5 (awaitSilence : SessionM δ Unit) := by
  refine drainLine_readsAtMost.bind fun _ => readStatus_readsAtMost.map fun status => ?_
  exact .nothing (silent_notify _)

theorem meet_readsAtMost (crystal : UInt32) :
    ReadsAtMost 2 137 (meet crystal : SessionM δ Unit) := by
  refine (writeBytes_readsAtMost _).free fun _ => .after (silent_enter _) ?_
  refine awaitSync_readsAtMost.one fun _ => (writeBytes_readsAtMost _).free fun _ => ?_
  have agreed : ReadsAtMost 1 68 (do writeBytes (crystalLine crystal); awaitOk : SessionM δ Unit) :=
    (writeBytes_readsAtMost _).free fun _ => awaitOk_readsAtMost
  exact .after (silent_enter _) (awaitOk_readsAtMost.bind fun _ => agreed)

theorem silence_readsAtMost : ReadsAtMost 2 5 (silence : SessionM δ Unit) := by
  refine (writeBytes_readsAtMost _).free fun _ => awaitSilence_readsAtMost.map fun _ => ?_
  exact .after (silent_enter _) (.nothing (silent_enter _))

theorem synchronize_readsAtMost (crystal : UInt32) (quiet : Bool) :
    ReadsAtMost 4 142 (synchronize crystal quiet : SessionM δ Unit) := by
  have exchange : ReadsAtMost 4 142 (handshake crystal : SessionM δ Unit) := by
    rw [handshake_eq]
    have remember : Silent (modify fun s => { s with crystal := some crystal } : SessionM δ Unit) :=
      fun _ => ⟨_, rfl, rfl, rfl⟩
    have rest : ReadsAtMost 2 5 (do
        enter .crystalAcked
        modify fun s => { s with crystal := some crystal }
        silence : SessionM δ Unit) := .after (silent_enter _) (.after remember silence_readsAtMost)
    exact (meet_readsAtMost crystal).bind fun _ => rest
  refine exchange.wrap fun s => ⟨{ s with phase := .unsynced, heldBack := none }, rfl, ?_⟩
  obtain ⟨s', run, sameCalls, -⟩ := synchronize_apply crystal quiet s
  rw [run]
  exact sameCalls

/-- **What bounds the calls in which a session waits.** A line is read in 66 calls at most. To
    run a command takes as many as the longest line that arrives has bytes, and 3 more; and a
    handshake drops four such lines. -/
theorem reads_bounded_by_lines : ReadsAtMost 0 66 (readLine : SessionM δ String) ∧
    (∀ c, ReadsAtMost 1 3 (commandStatus c : SessionM δ Wire.Status)) ∧
    ∀ crystal quiet, ReadsAtMost 4 142 (synchronize crystal quiet : SessionM δ Unit) :=
  ⟨readLine_readsAtMost, commandStatus_readsAtMost, synchronize_readsAtMost⟩

/-! ## A device that babbles

It has sent some bytes, then a line that does not end, and adds nothing to it. -/

/-- A device with nothing in store but what can be read. -/
structure Plain (d : Scripted) : Prop where
  readFaults : d.readFaults = []
  writeFaults : d.writeFaults = []
  writeLimits : d.writeLimits = []
  replies : d.replies = []

theorem queues_plain : Queues Scripted.queue Plain where
  read {d} h wanted timeout := by
    refine ⟨{ d with reads := d.reads + 1, queue := d.queue.drop wanted }, ?_, rfl,
      ⟨h.readFaults, h.writeFaults, h.writeLimits, h.replies⟩⟩
    show Scripted.read d wanted timeout = _
    simp [Scripted.read, h.readFaults]
  clear {d} h := by
    show Plain (Scripted.clear d).2
    unfold Scripted.clear
    split
    · exact h
    · split
      · exact h
      · exact ⟨h.readFaults, h.writeFaults, h.writeLimits, h.replies⟩

/-- On this input, the action goes through with this result and leaves this. -/
def Passes (input : Bytes) (action : SessionM Scripted α) (a : α) (rest : Bytes) : Prop :=
  ∀ s : Session Scripted, Plain s.device → ahead Scripted.queue s = input →
    ∃ s' cs, action s = (.ok a, s') ∧ Plain s'.device ∧ ahead Scripted.queue s' = rest ∧
      calls s' = calls s ++ cs

/-- On this input, the action reads more than `n` times before it fails. -/
def KeptBusy (n : Nat) (input : Bytes) (action : SessionM Scripted α) : Prop :=
  ∀ s : Session Scripted, Plain s.device → ahead Scripted.queue s = input →
    ∃ failure s' cs, action s = (.error failure, s') ∧ calls s' = calls s ++ cs ∧
      n < readCalls cs

theorem Passes.keptBusy {n : Nat} {input between : Bytes} {a : α} {action : SessionM Scripted α}
    {next : α → SessionM Scripted β} (first : Passes input action a between)
    (second : KeptBusy n between (next a)) : KeptBusy n input (action >>= next) := by
  intro s plain front
  obtain ⟨s', cs, run, plain', left, grown⟩ := first s plain front
  obtain ⟨failure, s'', ds, run', grown', many⟩ := second s' plain' left
  refine ⟨failure, s'', cs ++ ds, ?_, by rw [grown', grown, List.append_assoc], ?_⟩
  · rw [bind_apply, run]
    exact run'
  · rw [readCalls_append]
    omega

theorem KeptBusy.first {n : Nat} {input : Bytes} {action : SessionM Scripted α}
    (h : KeptBusy n input action) (next : α → SessionM Scripted β) :
    KeptBusy n input (action >>= next) := by
  intro s plain front
  obtain ⟨failure, s', cs, run, grown, many⟩ := h s plain front
  exact ⟨failure, s', cs, by rw [bind_apply, run], grown, many⟩

theorem passes_writeBytes (b input : Bytes) : Passes input (writeBytes b) () input := by
  intro s plain front
  obtain ⟨notices, run⟩ := writeBytes_apply b s
  have call : Transport.write s.device b =
      (.ok b.length, { s.device with writes := s.device.writes + 1 }) := by
    show Scripted.write s.device b = _
    simp [Scripted.write, plain.writeFaults, plain.writeLimits, plain.replies]
  rw [call, writeResult, if_pos rfl] at run
  exact ⟨_, [.write b (.ok b.length)], run,
    ⟨plain.readFaults, plain.writeFaults, plain.writeLimits, plain.replies⟩, front,
    Array.toList_push⟩

theorem passes_readExact (b rest : Bytes) :
    Passes (b ++ rest) (readExact b.length) b rest := by
  intro s plain front
  obtain ⟨plain', same⟩ := readExact_readsAs queues_plain b.length s plain
  rw [front, Dialogue.take_append] at same
  obtain ⟨cs, grown, -⟩ := readExact_readsAtMost b.length s
  exact ⟨_, cs, Prod.ext (Prod.mk.inj same).1 rfl, plain', (Prod.mk.inj same).2, grown⟩

/-- A byte that is not held back costs a call. -/
theorem readByte_costs (s : Session δ) :
    ∃ cs, calls (readByte s).2 = calls s ++ cs ∧ 1 ≤ readCalls cs + s.heldBack.toList.length := by
  rw [readByte_eq]
  cases s.heldBack with
  | some c => exact ⟨[], (List.append_nil _).symm, Nat.le_refl _⟩
  | none =>
    dsimp only
    rcases Transport.read s.device 1 s.timeout with ⟨_ | _ | ⟨c, rest⟩, device⟩
    all_goals exact ⟨_, Array.toList_push, Nat.le_refl _⟩

/-- The byte that is repeated, a full stop. -/
def filler : UInt8 := 46

/-- To drop the babble takes a call for each of its bytes, but for one that may be held back. -/
theorem drainLine_keptBusy (n : Nat) :
    KeptBusy n (List.replicate (n + 2) filler) drainLine := by
  have costs (m : Nat) (s : Session Scripted) (plain : Plain s.device)
      (front : ahead Scripted.queue s = List.replicate m filler) :
      ∃ failure s' cs, drainLine s = (.error failure, s') ∧ calls s' = calls s ++ cs ∧
        m ≤ readCalls cs + s.heldBack.toList.length := by
    induction m generalizing s with
    | zero =>
      obtain ⟨s', run, -⟩ := readByte_of_nil queues_plain plain front
      obtain ⟨cs, grown, -⟩ := readByte_costs s
      rw [run] at grown
      exact ⟨timedOut, s', cs, by rw [drainLine_eq, bind_apply, run], grown, Nat.zero_le _⟩
    | succ m ih =>
      obtain ⟨s', run, plain', left, empty⟩ := readByte_of_cons queues_plain plain front
      obtain ⟨cs, grown, cost⟩ := readByte_costs s
      obtain ⟨failure, s'', ds, run', grown', costs⟩ := ih s' plain' left
      rw [run] at grown
      rw [empty] at costs
      refine ⟨failure, s'', cs ++ ds, ?_, by rw [grown', grown, List.append_assoc], ?_⟩
      · rw [drainLine_eq, bind_apply, run]
        exact run'
      · rw [readCalls_append]
        have free : (none : Option UInt8).toList.length = 0 := rfl
        omega
  intro s plain front
  obtain ⟨failure, s', cs, run, grown, costs⟩ := costs (n + 2) s plain front
  have one : s.heldBack.toList.length ≤ 1 := length_held s
  exact ⟨failure, s', cs, run, grown, by omega⟩

theorem readStatus_keptBusy (n : Nat) :
    KeptBusy n (Bytes.ascii "0  " ++ List.replicate (n + 2) filler) readStatus := by
  refine (passes_readExact (Bytes.ascii "0  ") _).keptBusy ?_
  exact (drainLine_keptBusy n).first _

theorem commandStatus_keptBusy (c : Wire.Command) (n : Nat) :
    KeptBusy n (Bytes.ascii "0  " ++ List.replicate (n + 2) filler) (commandStatus c) := by
  have exchange : KeptBusy n (Bytes.ascii "0  " ++ List.replicate (n + 2) filler)
      (do writeBytes c.line; readStatus) :=
    (passes_writeBytes c.line _).keptBusy (readStatus_keptBusy n)
  intro s plain front
  obtain ⟨failure, s', cs, run, grown, many⟩ := exchange { s with
    timeout := max c.kind.patience s.settings.timeout
    journal.notices := s.journal.notices.push (.sendingCommand c) } plain front
  refine ⟨failure.during c.kind, { s' with timeout := s.timeout }, cs, ?_, grown, many⟩
  rw [commandStatus, bind_apply]
  simp only [notify, modify_apply, bind_apply, get_apply, during, withTimeout]
  rw [← bind_apply, run]

theorem handshake_keptBusy (crystal : UInt32) (n : Nat) :
    KeptBusy n (syncReply ++ List.replicate (n + 2) filler) (handshake crystal) := by
  have enters (phase : Phase) (input : Bytes) : Passes input (enter phase) () input :=
    fun s plain front => ⟨_, [], rfl, plain, front, (List.append_nil _).symm⟩
  have answered (rest : Bytes) : Passes (syncReply ++ rest) awaitSync () rest := by
    intro s plain front
    obtain ⟨s', cs, run, after⟩ := passes_readExact syncReply rest s plain front
    exact ⟨s', cs, by rw [awaitSync, bind_apply, run]; rfl, after⟩
  rw [handshake_eq]
  refine KeptBusy.first ?_ _
  refine (passes_writeBytes syncRequest _).keptBusy ((enters .syncSent _).keptBusy ?_)
  refine (answered _).keptBusy ((passes_writeBytes syncReply _).keptBusy ?_)
  refine (enters .syncAcked _).keptBusy (KeptBusy.first ?_ _)
  exact (drainLine_keptBusy n).first _

/-- A new session whose device has sent this already. -/
def hearing (input : Bytes) : Session Scripted := start { queue := input } {}

theorem KeptBusy.exceeds {n : Nat} {input : Bytes} {action : SessionM Scripted α}
    (h : KeptBusy n input action) {cs : List Call}
    (grown : calls (action (hearing input)).2 = calls (hearing input) ++ cs) :
    ¬ readCalls cs ≤ n := by
  obtain ⟨failure, s', ds, run, grown', many⟩ := h (hearing input) ⟨rfl, rfl, rfl, rfl⟩ rfl
  rw [run, grown'] at grown
  obtain rfl := List.append_cancel_left grown
  exact Nat.not_le.mpr many

/-- **No constant is enough**, neither for any command nor for a handshake. -/
theorem no_bound_on_reads : ¬ ∃ n,
    (∃ c, ReadsAtMost 0 n (commandStatus c : SessionM Scripted Wire.Status)) ∨
    ∃ crystal quiet, ReadsAtMost 0 n (synchronize crystal quiet : SessionM Scripted Unit) := by
  rintro ⟨n, ⟨c, few⟩ | ⟨crystal, quiet, few⟩⟩
  · obtain ⟨cs, grown, here⟩ := few (hearing (Bytes.ascii "0  " ++ List.replicate (n + 2) filler))
    rw [Nat.zero_mul, Nat.zero_add] at here
    exact (commandStatus_keptBusy c n).exceeds grown here
  · let s := hearing (syncReply ++ List.replicate (n + 2) filler)
    obtain ⟨cs, grown, here⟩ := few s
    obtain ⟨s', run, sameCalls, -⟩ := synchronize_apply crystal quiet s
    rw [Nat.zero_mul, Nat.zero_add] at here
    rw [run, sameCalls] at grown
    exact (handshake_keptBusy crystal n).exceeds grown here

end Session
end SerialIsp
