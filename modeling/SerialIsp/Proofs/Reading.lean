import SerialIsp.Proofs.Dialogue.Lines
import SerialIsp.Proofs.Frames
import SerialIsp.Session.Scripted

/-!
# Reading ahead of a queue

A transport that keeps its input in a queue can be read as if there were no byte held back: the
held-back byte and the queue are one input, and every reader is a plain function of it. Such a
function takes what belongs to it from the front and leaves the rest, whatever was read before
and wherever the line ends lie. Where the input ends too early the reader times out.

What is proved of a reader is said here without the dialogues: by lines, by lengths, and by
what stands in front of the rest.
-/

namespace SerialIsp

variable {α β δ : Type} [Transport δ]

/-- **Transports with a queue.** As long as the transport is steady, a read hands out the front
    of the queue, as much of it as is wanted and there. What it does when the input is dropped
    is open, but it stays steady. -/
structure Queues (queue : δ → Bytes) (steady : δ → Prop) : Prop where
  read : ∀ {d}, steady d → ∀ wanted timeout, ∃ d',
    Transport.read d wanted timeout = (.ok ((queue d).take wanted), d') ∧
      queue d' = (queue d).drop wanted ∧ steady d'
  clear : ∀ {d}, steady d → steady (Transport.clear d).2

/-- The failure of a reader that finds too little. -/
def timedOut : Failure := .connecting (.timeout none)

/-- What a reader comes to when its input is all there is. -/
def Close.atOnce : Close α → Except Failure α × Bytes
  | .done a rest => (.ok a, rest)
  | .failed failure rest => (.error failure, rest)
  | .waiting => (.error timedOut, [])

section

omit [Transport δ]

theorem Close.atOnce_eq_ok {c : Close α} {a : α} {rest : Bytes} :
    c.atOnce = (.ok a, rest) ↔ c = .done a rest := by
  cases c <;> simp [atOnce]

theorem Close.atOnce_eq_error {c : Close α} {failure : Failure} {rest : Bytes} :
    c.atOnce = (.error failure, rest) ↔
      c = .failed failure rest ∨ c = .waiting ∧ failure = timedOut ∧ rest = [] := by
  cases c <;> simp [atOnce, eq_comm]

end

namespace Session

/-- What lies ahead: the byte held back, and the queue behind it. -/
def ahead (queue : δ → Bytes) (s : Session δ) : Bytes := s.heldBack.toList ++ queue s.device

/-- What an action comes to, and what it leaves ahead. -/
def outcome (queue : δ → Bytes) (action : SessionM δ α) (s : Session δ) :
    Except Failure α × Bytes := ((action s).1, ahead queue (action s).2)

/-! ## Readers as functions of what lies ahead -/

/-- Over a steady transport, the action is the function of its input that the dialogue is. -/
def ReadsAs (queue : δ → Bytes) (steady : δ → Prop) (action : SessionM δ α)
    (p : Dialogue α) : Prop :=
  ∀ s, steady s.device → steady (action s).2.device ∧
    outcome queue action s = (p (ahead queue s)).close.atOnce

section

variable {queue : δ → Bytes} {steady : δ → Prop}

omit [Transport δ] in
theorem readsAs_pure (a : α) : ReadsAs queue steady (pure a) (pure a) := fun _ h => ⟨h, rfl⟩

omit [Transport δ] in
theorem readsAs_throw (failure : Failure) :
    ReadsAs queue steady (throw failure : SessionM δ α) (Dialogue.fail failure) :=
  fun _ h => ⟨h, rfl⟩

omit [Transport δ] in
theorem ReadsAs.bind {action : SessionM δ α} {p : Dialogue α} {next : α → SessionM δ β}
    {q : α → Dialogue β} (first : ReadsAs queue steady action p)
    (second : ∀ a, ReadsAs queue steady (next a) (q a)) :
    ReadsAs queue steady (action >>= next) (p >>= q) := by
  intro s h
  obtain ⟨h', same⟩ := first s h
  rw [outcome] at same ⊢
  rw [bind_apply, Dialogue.bind_apply, Dialogue.goOn]
  rcases run : action s with ⟨failure | a, s'⟩
  · rw [run] at h' same
    refine ⟨h', ?_⟩
    cases close : (p (ahead queue s)).close with
    | done a rest =>
      rw [close] at same
      cases (Prod.mk.inj same).1
    | failed f rest =>
      rw [close] at same
      obtain ⟨rfl, left⟩ : failure = f ∧ ahead queue s' = rest := by
        simpa [Close.atOnce] using same
      exact Prod.ext rfl left
    | waiting =>
      rw [close] at same
      obtain ⟨rfl, left⟩ : failure = timedOut ∧ ahead queue s' = [] := by
        simpa [Close.atOnce] using same
      exact Prod.ext rfl left
  · rw [run] at h' same
    cases close : (p (ahead queue s)).close with
    | done b rest =>
      rw [close] at same
      obtain ⟨rfl, rfl⟩ : a = b ∧ ahead queue s' = rest := by
        simpa [Close.atOnce] using same
      exact second a s' h'
    | failed f rest =>
      rw [close] at same
      cases (Prod.mk.inj same).1
    | waiting =>
      rw [close] at same
      cases (Prod.mk.inj same).1

variable (q : Queues queue steady)

include q

theorem readExact_readsAs (n : Nat) :
    ReadsAs queue steady (readExact n : SessionM δ Bytes) (Dialogue.take n) := by
  intro s h
  by_cases none : n = 0
  · subst none
    exact ⟨h, rfl⟩
  have one : s.heldBack.toList.length ≤ 1 := length_held s
  by_cases short : s.heldBack.toList.length < n
  · -- what is held back is not enough, so one read call takes the rest from the queue
    obtain ⟨device, call, left, h'⟩ := q.read h (n - s.heldBack.toList.length) s.timeout
    let b := s.heldBack.toList ++ (queue s.device).take (n - s.heldBack.toList.length)
    let arrived : Session δ := { s with
      device
      heldBack := .none
      journal.calls := s.journal.calls.push (.read (n - s.heldBack.toList.length) s.timeout
        (.ok ((queue s.device).take (n - s.heldBack.toList.length)))) }
    obtain ⟨notices, run⟩ := checkArrived n b arrived
    have whole : readExact n s =
        (if b.length < n then .error timedOut else .ok b,
          { arrived with journal.notices := notices }) := by
      simp only [readExact, none, ↓reduceIte, bind_apply, takeHeldBack, short, callRead, call,
        ofOutcome, pure_apply]
      exact run
    have front : (ahead queue s).take n = b := by
      rw [ahead, List.take_append, List.take_of_length_le (Nat.le_of_lt short)]
    have back : (ahead queue s).drop n = queue device := by
      rw [ahead, List.drop_append, List.drop_of_length_le (Nat.le_of_lt short), List.nil_append,
        left]
    rw [outcome, whole]
    refine ⟨h', ?_⟩
    by_cases enough : n ≤ (ahead queue s).length
    · have all : ¬ b.length < n := by
        rw [← front, List.length_take]
        omega
      rw [if_neg all, Dialogue.take_of_le enough, front, back]
      rfl
    · have few : b.length < n := by
        rw [← front, List.length_take]
        omega
      have nothing : queue device = [] := by
        rw [← back]
        exact List.drop_of_length_le (by omega)
      rw [if_pos few, Dialogue.take_of_lt (by omega)]
      exact Prod.ext rfl nothing
  · -- the byte held back is all that is wanted
    have exact : s.heldBack.toList.length = n := by omega
    obtain ⟨notices, run⟩ := checkArrived n s.heldBack.toList { s with heldBack := .none }
    have whole : readExact n s =
        (.ok s.heldBack.toList, { s with heldBack := .none, journal.notices := notices }) := by
      simp only [readExact, none, ↓reduceIte, bind_apply, takeHeldBack, short, pure_apply,
        List.append_nil]
      simpa [exact] using run
    have taken : Dialogue.take n (ahead queue s) =
        ⟨[], .done s.heldBack.toList (queue s.device)⟩ := by
      rw [← exact]
      exact Dialogue.take_append _ _
    rw [outcome, whole, taken]
    exact ⟨h, rfl⟩

theorem readByte_readsAs : ReadsAs queue steady (readByte : SessionM δ UInt8) Dialogue.byte := by
  have one : (do return (← Dialogue.take 1).headD 0) = Dialogue.byte := funext Dialogue.take_one
  rw [← one]
  exact (readExact_readsAs q 1).bind fun b => readsAs_pure _

theorem readByte_of_nil {s : Session δ} (h : steady s.device) (input : ahead queue s = []) :
    ∃ s', readByte s = (.error timedOut, s') ∧ steady s'.device ∧ ahead queue s' = [] := by
  obtain ⟨h', same⟩ := readByte_readsAs q s h
  rw [input] at same
  exact ⟨_, Prod.ext (Prod.mk.inj same).1 rfl, h', (Prod.mk.inj same).2⟩

theorem readByte_of_cons {s : Session δ} {c : UInt8} {rest : Bytes} (h : steady s.device)
    (input : ahead queue s = c :: rest) : ∃ s', readByte s = (.ok c, s') ∧ steady s'.device ∧
      ahead queue s' = rest ∧ s'.heldBack = none := by
  obtain ⟨h', same⟩ := readByte_readsAs q s h
  rw [input] at same
  have run : readByte s = (.ok c, (readByte s).2) := Prod.ext (Prod.mk.inj same).1 rfl
  exact ⟨_, run, h', (Prod.mk.inj same).2, heldBack_of_readByte run⟩

/-- A byte that is held back lies ahead again, since the slot is empty where a byte was read. -/
theorem finishLine_readsAs :
    ReadsAs queue steady (finishLine : SessionM δ Unit) Dialogue.lineEnd := by
  intro s h
  rw [outcome, finishLine, bind_apply]
  cases input : ahead queue s with
  | nil =>
    obtain ⟨s', run, h', left⟩ := readByte_of_nil q h input
    rw [run]
    exact ⟨h', Prod.ext rfl left⟩
  | cons c rest =>
    obtain ⟨s', run, h', left, empty⟩ := readByte_of_cons q h input
    rw [run]
    dsimp only
    by_cases lf : c = Bytes.lf
    · simp only [lf, ne_eq, not_true_eq_false, ↓reduceIte, Dialogue.lineEnd, Close.atOnce]
      exact ⟨h', Prod.ext rfl left⟩
    · simp only [lf, ne_eq, not_false_eq_true, ↓reduceIte, Dialogue.lineEnd, Close.atOnce]
      refine ⟨h', Prod.ext rfl ?_⟩
      rw [ahead, empty] at left
      exact congrArg (c :: ·) left

theorem readLineFrom_readsAs (line : Bytes) (room : Nat) :
    ReadsAs queue steady (readLineFrom line room : SessionM δ Bytes)
      (Dialogue.lineFrom line room) := by
  induction room generalizing line with
  | zero =>
    rw [readLineFrom, Dialogue.lineFrom]
    refine (readByte_readsAs q).bind fun c => ?_
    split
    · exact readsAs_pure line
    · split
      · exact (finishLine_readsAs q).bind fun _ => readsAs_pure line
      · exact readsAs_throw _
  | succ room ih =>
    rw [readLineFrom, Dialogue.lineFrom]
    refine (readByte_readsAs q).bind fun c => ?_
    split
    · exact readsAs_pure line
    · split
      · exact (finishLine_readsAs q).bind fun _ => readsAs_pure line
      · exact ih _

theorem readLine_readsAs : ReadsAs queue steady (readLine : SessionM δ String) Dialogue.line := by
  refine (readLineFrom_readsAs q [] lineLimit).bind fun line => ?_
  -- what is told changes nothing of what lies ahead
  intro s h
  obtain ⟨notices, run⟩ := traceNotice_apply (.receivedLine (Text.Utf8.lossy line)) s
  rw [outcome, bind_apply, run]
  exact ⟨h, rfl⟩

theorem readNumber_readsAs :
    ReadsAs queue steady (readNumber : SessionM δ UInt32) Dialogue.number := by
  refine (readLine_readsAs q).bind fun line => ?_
  cases Text.readNumber 10 Text.limit32 (Text.trim line.toList) with
  | ok n => exact readsAs_pure _
  | error fault => exact readsAs_throw _

theorem drainLine_readsAs :
    ReadsAs queue steady (drainLine : SessionM δ Unit) Dialogue.lineRest := by
  intro s h
  -- the input gets shorter with every byte
  induction input : ahead queue s generalizing s with
  | nil =>
    obtain ⟨s', run, h', left⟩ := readByte_of_nil q h input
    rw [outcome, drainLine_eq, bind_apply, run]
    exact ⟨h', Prod.ext rfl left⟩
  | cons c rest ih =>
    obtain ⟨s', run, h', left, -⟩ := readByte_of_cons q h input
    rw [outcome, drainLine_eq, bind_apply, run, Dialogue.lineRest]
    dsimp only
    split
    · exact ⟨h', Prod.ext rfl left⟩
    · split
      · rw [← left]
        exact finishLine_readsAs q s' h'
      · exact ih s' h' left

theorem readStatus_readsAs :
    ReadsAs queue steady (readStatus : SessionM δ Wire.Status) Dialogue.status := by
  refine (readExact_readsAs q statusLength).bind fun reply => ?_
  dsimp only
  cases Text.readNumber 10 Text.limit32
      ((reply.takeWhile isDigit).map fun c => Char.ofNat c.toNat) with
  | error fault => exact readsAs_throw _
  | ok n =>
    dsimp only
    split
    · exact readsAs_pure _
    · split
      · exact (finishLine_readsAs q).bind fun _ => readsAs_pure _
      · exact (drainLine_readsAs q).bind fun _ => readsAs_pure _

end

/-! ## Reading in any order -/

/-- What can be asked of the input. -/
inductive Request where
  | exact (n : Nat)
  | line
  | drain
  | number
  | clear
  deriving DecidableEq, Repr

def Request.after (s : Session δ) : Request → Session δ
  | exact n => (readExact n s).2
  | line => (readLine s).2
  | drain => (drainLine s).2
  | number => (readNumber s).2
  | clear => (clearInput s).2

/-- The session after some requests, one after the other. -/
def afterAll (s : Session δ) (requests : List Request) : Session δ := requests.foldl Request.after s

/-- Holds a byte back, unless one is held back already. -/
def holdBackIfFree (c : UInt8) : SessionM δ Unit :=
  modify fun s => { s with heldBack := s.heldBack.or (some c) }

/-- **Readers are functions of what lies ahead.** What each of them comes to is said in both
    directions, together with all that it leaves: it comes to that exactly when this stands in
    front of the rest. So nothing of the input is lost, repeated or reordered. -/
structure ReadsAhead (queue : δ → Bytes) (s : Session δ) : Prop where
  /-- Reading nothing touches nothing. -/
  nothing : readExact 0 s = (.ok [], s)
  exact : ∀ n b rest, outcome queue (readExact n) s = (.ok b, rest) ↔
    b.length = n ∧ ahead queue s = b ++ rest
  tooFew : ∀ n failure rest, outcome queue (readExact n) s = (.error failure, rest) ↔
    (ahead queue s).length < n ∧ failure = timedOut ∧ rest = []
  line : ∀ reply rest, outcome queue readLine s = (.ok reply, rest) ↔
    ∃ text, FirstLine text (ahead queue s) rest ∧ text.length ≤ 64 ∧
      reply = Text.Utf8.lossy text
  tooLong : ∀ reply rest,
    outcome queue readLine s = (.error (.connecting (.malformedReply reply)), rest) ↔
      ∃ text, Unbroken text ∧ text.length = 65 ∧ ahead queue s = text ++ rest ∧
        reply = Text.Utf8.lossy text
  /-- There is nothing else that can happen to a line. -/
  noLine : ∀ failure rest, outcome queue readLine s = (.error failure, rest) →
    (∃ reply, failure = .connecting (.malformedReply reply)) ∨ failure = timedOut ∧ rest = []
  drain : ∀ rest, outcome queue drainLine s = (.ok (), rest) ↔
    ∃ text, FirstLine text (ahead queue s) rest
  noDrain : ∀ failure rest, outcome queue drainLine s = (.error failure, rest) →
    failure = timedOut ∧ rest = []
  /-- A number is read as a line. -/
  number : ∀ n rest, outcome queue readNumber s = (.ok n, rest) ↔
    ∃ reply value, outcome queue readLine s = (.ok reply, rest) ∧
      Text.readNumber 10 Text.limit32 (Text.trim reply.toList) = .ok value ∧ n = value.toUInt32
  noNumber : ∀ failure rest, outcome queue readNumber s = (.error failure, rest) →
    outcome queue readLine s = (.error failure, rest) ∨
      ∃ reply fault, outcome queue readLine s = (.ok reply, rest) ∧
        Text.readNumber 10 Text.limit32 (Text.trim reply.toList) = .error fault ∧
        failure = .connecting (.malformedReply reply)
  /-- Where the input is dropped, what lies ahead is what the transport still has. -/
  clear : outcome queue clearInput s =
    ((Transport.clear s.device).1.mapError fun fault => .connecting (.ofPort fault),
      queue (Transport.clear s.device).2)
  /-- No line feed is held back, -/
  slot : s.heldBack ≠ some Bytes.lf
  /-- and no byte is held back over another one. -/
  free : finishLine s = (do
    let c ← readByte
    if c ≠ Bytes.lf then holdBackIfFree c : SessionM δ Unit) s

theorem frame_slot : Frame (δ := δ) fun s s' =>
    s.heldBack ≠ some Bytes.lf → s'.heldBack ≠ some Bytes.lf where
  refl _ h := h
  trans first second h := second (first h)
  told _ _ _ h := h
  took _ _ := nofun
  held _ _ other _ h := other (Option.some.inj h)
  wrote _ _ h := h
  read _ _ h := h
  patient h := h

section

variable {queue : δ → Bytes} {steady : δ → Prop}

omit [Transport δ] in
theorem ReadsAs.ok {action : SessionM δ α} {p : Dialogue α} {s : Session δ}
    (reads : ReadsAs queue steady action p) (h : steady s.device) {a : α} {rest : Bytes} :
    outcome queue action s = (.ok a, rest) ↔ (p (ahead queue s)).close = .done a rest := by
  rw [(reads s h).2, Close.atOnce_eq_ok]

omit [Transport δ] in
theorem ReadsAs.error {action : SessionM δ α} {p : Dialogue α} {s : Session δ}
    (reads : ReadsAs queue steady action p) (h : steady s.device) {failure : Failure}
    {rest : Bytes} : outcome queue action s = (.error failure, rest) ↔
      (p (ahead queue s)).close = .failed failure rest ∨
        (p (ahead queue s)).close = .waiting ∧ failure = timedOut ∧ rest = [] := by
  rw [(reads s h).2, Close.atOnce_eq_error]

theorem outcome_readNumber (s : Session δ) : outcome queue readNumber s =
    match outcome queue readLine s with
    | (.ok reply, rest) =>
      match Text.readNumber 10 Text.limit32 (Text.trim reply.toList) with
      | .ok value => (.ok value.toUInt32, rest)
      | .error _ => (.error (.connecting (.malformedReply reply)), rest)
    | (.error failure, rest) => (.error failure, rest) := by
  rw [outcome, outcome, readNumber, bind_apply]
  rcases readLine s with ⟨failure | reply, s'⟩
  · rfl
  · dsimp only
    cases Text.readNumber 10 Text.limit32 (Text.trim reply.toList) <;> rfl

theorem finishLine_free (s : Session δ) : finishLine s = (do
    let c ← readByte
    if c ≠ Bytes.lf then holdBackIfFree c : SessionM δ Unit) s := by
  rw [finishLine, bind_apply, bind_apply]
  rcases run : readByte s with ⟨failure | c, s'⟩
  · rfl
  · have empty : s'.heldBack = none := heldBack_of_readByte run
    dsimp only
    split
    · simp [holdBack, holdBackIfFree, empty]
    · rfl

theorem readsAhead (q : Queues queue steady) {s : Session δ} (h : steady s.device)
    (slot : s.heldBack ≠ some Bytes.lf) : ReadsAhead queue s where
  nothing := rfl
  exact n b rest := by rw [(readExact_readsAs q n).ok h, Dialogue.take_done]
  tooFew n failure rest := by
    rw [(readExact_readsAs q n).error h, Dialogue.take]
    split
    · next enough => exact iff_of_false (by simp) fun few => absurd few.1 (Nat.not_lt.mpr enough)
    · next short => simp [Nat.not_le.mp short]
  line reply rest := by
    rw [(readLine_readsAs q).ok h, Dialogue.line_done]
    rfl
  tooLong reply rest := by
    rw [(readLine_readsAs q).error h, Dialogue.line_failed]
    simp [timedOut, lineLimit]
  noLine failure rest failed := by
    rcases (readLine_readsAs q |>.error h).mp failed with ended | ⟨-, timeout⟩
    · obtain ⟨text, -, -, -, rfl⟩ := Dialogue.line_failed.mp ended
      exact .inl ⟨_, rfl⟩
    · exact .inr timeout
  drain rest := by rw [(drainLine_readsAs q).ok h, Dialogue.lineRest_done]
  noDrain failure rest failed := by
    rcases (drainLine_readsAs q |>.error h).mp failed with ended | ⟨-, timeout⟩
    · exact (Dialogue.lineRest_not_failed _ _ _ ended).elim
    · exact timeout
  number n rest := by
    rw [outcome_readNumber]
    rcases outcome queue readLine s with ⟨failure | reply, rest'⟩
    · constructor
      · intro come
        cases come
      · rintro ⟨_, _, read, -⟩
        cases read
    · constructor
      · intro come
        cases told : Text.readNumber 10 Text.limit32 (Text.trim reply.toList) with
        | ok value =>
          simp only [told, Prod.mk.injEq, Except.ok.injEq] at come
          obtain ⟨rfl, rfl⟩ := come
          exact ⟨reply, value, rfl, told, rfl⟩
        | error fault =>
          simp only [told] at come
          cases come
      · rintro ⟨reply', value, read, told, rfl⟩
        cases read
        simp only [told]
  noNumber failure rest failed := by
    rw [outcome_readNumber] at failed
    rcases read : outcome queue readLine s with ⟨failure' | reply, rest'⟩
    · rw [read] at failed
      cases failed
      exact .inl rfl
    · rw [read] at failed
      cases told : Text.readNumber 10 Text.limit32 (Text.trim reply.toList) with
      | ok value =>
        simp only [told] at failed
        cases failed
      | error fault =>
        simp only [told] at failed
        cases failed
        exact .inr ⟨reply, fault, rfl, told, rfl⟩
  clear := by
    rw [outcome, clearInput_apply]
    rfl
  slot := slot
  free := finishLine_free s

theorem steady_after (q : Queues queue steady) {s : Session δ} (h : steady s.device)
    (request : Request) : steady (request.after s).device := by
  cases request with
  | exact n => exact (readExact_readsAs q n s h).1
  | line => exact (readLine_readsAs q s h).1
  | drain => exact (drainLine_readsAs q s h).1
  | number => exact (readNumber_readsAs q s h).1
  | clear =>
    rw [Request.after, clearInput_apply]
    exact q.clear h

theorem slot_after {s : Session δ} (slot : s.heldBack ≠ some Bytes.lf) (request : Request) :
    (request.after s).heldBack ≠ some Bytes.lf := by
  cases request with
  | exact n => exact frame_slot.readExact n s slot
  | line => exact frame_slot.readLine s slot
  | drain => exact frame_slot.drainLine s slot
  | number => exact frame_slot.readNumber s slot
  | clear =>
    rw [Request.after, clearInput_apply]
    exact nofun

/-- **In any order.** Over a transport with a queue, after any requests whatever, the readers
    are functions of what lies ahead. -/
theorem readsAhead_afterAll (q : Queues queue steady) {s : Session δ} (h : steady s.device)
    (slot : s.heldBack ≠ some Bytes.lf) (requests : List Request) :
    ReadsAhead queue (afterAll s requests) := by
  induction requests generalizing s with
  | nil => exact readsAhead q h slot
  | cons request requests ih => exact ih (steady_after q h request) (slot_after slot request)

end

end Session

/-! ## A transport with a queue -/

/-- A scripted transport with no faults in store for reads hands out its queue, even where its
    input cannot be dropped. -/
theorem Scripted.queues : Queues Scripted.queue fun d => d.readFaults = [] where
  read {d} h wanted timeout := by
    refine ⟨{ d with reads := d.reads + 1, queue := d.queue.drop wanted }, ?_, rfl, h⟩
    show Scripted.read d wanted timeout = _
    simp [Scripted.read, h]
  clear {d} h := by
    show (Scripted.clear d).2.readFaults = []
    unfold Scripted.clear
    split
    · exact h
    · split <;> exact h

/-- So it is after lines that end in a carriage return, one right behind the other, and after
    an attempt to drop the input. -/
theorem Session.readsAhead_afterAll_scripted :
    let device : Scripted :=
      { queue := Bytes.ascii "a\r\rb\r\n", clearFault := some (.system .other "") }
    device.readFaults = [] ∧ (Session.start device {}).heldBack ≠ some Bytes.lf ∧
      ReadsAhead Scripted.queue (afterAll (start device {}) [.line, .exact 0, .line, .clear]) :=
  ⟨rfl, by decide, readsAhead_afterAll Scripted.queues rfl (by decide) _⟩

end SerialIsp
