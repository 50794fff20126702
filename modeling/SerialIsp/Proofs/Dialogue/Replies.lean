import SerialIsp.Proofs.Dialogue.Follows

/-!
# Reading and writing as dialogues

The dialogues of the session's own operations: writing, reading a number of bytes, a line, a
number line and a status. They read their input from front to back, so each is a plain
recursion on it, and none of them has to know about the byte that is held back: what the
session keeps in a field of its own is here the first byte of the input.
-/

namespace SerialIsp

variable {δ : Type}

/-- The failure of a reply that makes no sense. -/
def Failure.isGarbled : Failure → Prop
  | .connecting (.malformedReply _) => True
  | _ => False

/-! ## The dialogues -/

namespace Dialogue

/-- Reads `n` bytes. -/
def take (n : Nat) : Dialogue Bytes := fun input =>
  if n ≤ input.length then ⟨[], .done (input.take n) (input.drop n)⟩ else ⟨[], .waiting⟩

/-- Reads a byte. -/
def byte : Dialogue UInt8
  | [] => ⟨[], .waiting⟩
  | c :: rest => ⟨[], .done c rest⟩

/-- Ends a line after its carriage return. The next byte has to be there, to see whether it
    is a line feed; any other one is left. -/
def lineEnd : Dialogue Unit
  | [] => ⟨[], .waiting⟩
  | c :: rest => ⟨[], .done () (if c = Bytes.lf then rest else c :: rest)⟩

/-- Reads on in a line, after `line` and with room for `room` more bytes. -/
def lineFrom (line : Bytes) (room : Nat) : Dialogue Bytes := do
  let c ← byte
  if c = Bytes.lf then return line
  else if c = Bytes.cr then
    lineEnd
    return line
  else
    match room with
    | 0 => fail (.connecting (.malformedReply (Text.Utf8.lossy (line ++ [c]))))
    | room + 1 => lineFrom (line ++ [c]) room

/-- Reads a line. -/
def line : Dialogue String := do return Text.Utf8.lossy (← lineFrom [] Session.lineLimit)

/-- Reads to the end of a line. -/
def lineRest : Dialogue Unit
  | [] => ⟨[], .waiting⟩
  | c :: rest =>
    if c = Bytes.lf then ⟨[], .done () rest⟩
    else if c = Bytes.cr then lineEnd rest
    else lineRest rest

/-- Reads a line that holds one number. -/
def number : Dialogue UInt32 := do
  let line ← line
  match Text.readNumber 10 Text.limit32 (Text.trim line.toList) with
  | .ok n => return n.toUInt32
  | .error _ => fail (.connecting (.malformedReply line))

/-- Reads a status. -/
def status : Dialogue Wire.Status := do
  let reply ← take Session.statusLength
  let code := (reply.takeWhile Session.isDigit).map fun c => Char.ofNat c.toNat
  match Text.readNumber 10 Text.limit32 code with
  | .error _ => fail (.connecting (.malformedReply (Text.Utf8.lossy reply)))
  | .ok n =>
    let last := reply.getLastD 0
    if last = Bytes.lf then pure ()
    else if last = Bytes.cr then lineEnd
    else lineRest
    return .ofValue n.toUInt32

theorem take_of_le {n : Nat} {input : Bytes} (h : n ≤ input.length) :
    take n input = ⟨[], .done (input.take n) (input.drop n)⟩ := if_pos h

theorem take_of_lt {n : Nat} {input : Bytes} (h : input.length < n) :
    take n input = ⟨[], .waiting⟩ := if_neg (Nat.not_le.mpr h)

/-- What may be held back is no status. -/
theorem status_waits {input : Bytes} (short : input.length ≤ 1) :
    (status input).close = .waiting := by
  have three : Session.statusLength = 3 := rfl
  rw [status, bind_waiting (by rw [take_of_lt (by omega)])]

theorem take_append (b rest : Bytes) : take b.length (b ++ rest) = ⟨[], .done b rest⟩ := by
  rw [take_of_le (by simp), List.take_left, List.drop_left]

theorem take_done {n : Nat} {input b rest : Bytes} :
    (take n input).close = .done b rest ↔ b.length = n ∧ input = b ++ rest := by
  rw [take]
  split
  · next enough =>
    constructor
    · intro ended
      cases ended
      exact ⟨List.length_take_of_le enough, (List.take_append_drop n _).symm⟩
    · rintro ⟨rfl, rfl⟩
      rw [List.take_left, List.drop_left]
  · next short =>
    refine iff_of_false nofun ?_
    rintro ⟨rfl, rfl⟩
    exact short (by simp)

theorem take_not_failed {n : Nat} {input rest : Bytes} {failure : Failure} :
    (take n input).close ≠ .failed failure rest := by
  rw [take]
  split <;> exact nofun

theorem take_one (input : Bytes) : (do return (← take 1).headD 0 : Dialogue UInt8) input =
    byte input := by
  cases input with
  | nil => rfl
  | cons c rest => rfl

/-! ### Listening

What only listens says nothing, and fails on garbled replies only. Waiting is no failure of a
dialogue; it is the transport that times out. -/

/-- Dialogues that only listen. -/
structure Listening {α : Type} (p : Dialogue α) : Prop where
  mute : ∀ input, (p input).said = []
  garbled : p.FailsOnly Failure.isGarbled

/-- Dialogues that fail with no timeout, so that it changes nothing to name a command in one. -/
def Untimed {α : Type} (p : Dialogue α) : Prop :=
  p.FailsOnly fun failure => ∀ k, failure.during k = failure

section

variable {α β : Type}

theorem mute_bind {p : Dialogue α} {next : α → Dialogue β} (hp : ∀ input, (p input).said = [])
    (hnext : ∀ a input, (next a input).said = []) (input : Bytes) :
    ((p >>= next) input).said = [] := by
  rw [bind_apply, goOn]
  cases (p input).close with
  | done a rest => simp [hp, hnext a]
  | failed f rest => exact hp input
  | waiting => exact hp input

theorem Listening.bind {p : Dialogue α} {next : α → Dialogue β} (hp : p.Listening)
    (hnext : ∀ a, (next a).Listening) : Listening (p >>= next) where
  mute := mute_bind hp.mute fun a => (hnext a).mute
  garbled := hp.garbled.bind fun a => (hnext a).garbled

theorem Listening.pure (a : α) : Listening (Pure.pure a : Dialogue α) := ⟨fun _ => rfl, .pure a⟩

theorem listening_fail (text : String) :
    Listening (fail (.connecting (.malformedReply text)) : Dialogue α) :=
  ⟨fun _ => rfl, failsOnly_fail trivial⟩

theorem Listening.untimed {p : Dialogue α} (h : p.Listening) : p.Untimed := by
  refine h.garbled.mono fun failure garbled k => ?_
  cases failure with
  | connecting fault =>
    cases fault with
    | malformedReply text => rfl
    | _ => exact garbled.elim
  | _ => exact garbled.elim

end

theorem listening_take (n : Nat) : Listening (take n) where
  mute input := by
    unfold take
    split <;> rfl
  garbled input failure rest ending := by
    unfold take at ending
    split at ending <;> cases ending

theorem listening_byte : Listening byte where
  mute input := by cases input <;> rfl
  garbled input _ _ ending := by cases input <;> cases ending

theorem listening_lineEnd : Listening lineEnd where
  mute input := by cases input <;> rfl
  garbled input _ _ ending := by cases input <;> cases ending

theorem lineRest_eq : lineRest = (do
    let c ← byte
    if c = Bytes.lf then return ()
    else if c = Bytes.cr then lineEnd
    else lineRest) := by
  funext input
  cases input with
  | nil => rfl
  | cons c rest =>
    rw [bind_done (rfl : byte (c :: rest) = _), lineRest]
    split
    · rfl
    · split <;> rfl

theorem listening_lineRest : Listening lineRest where
  mute input := by
    induction input with
    | nil => rfl
    | cons c input ih =>
      rw [lineRest]
      split
      · rfl
      · split
        · exact listening_lineEnd.mute input
        · exact ih
  garbled input failure rest := by
    induction input with
    | nil => exact nofun
    | cons c input ih =>
      rw [lineRest]
      split
      · exact nofun
      · split
        · exact fun ending => listening_lineEnd.garbled ending
        · exact ih

theorem listening_lineFrom (line : Bytes) (room : Nat) : Listening (lineFrom line room) := by
  induction room generalizing line with
  | zero =>
    rw [lineFrom]
    refine listening_byte.bind fun c => ?_
    split
    · exact .pure _
    · split
      · exact listening_lineEnd.bind fun _ => .pure _
      · exact listening_fail _
  | succ room ih =>
    rw [lineFrom]
    refine listening_byte.bind fun c => ?_
    split
    · exact .pure _
    · split
      · exact listening_lineEnd.bind fun _ => .pure _
      · exact ih _

theorem listening_line : Listening line :=
  (listening_lineFrom [] Session.lineLimit).bind fun _ => .pure _

theorem listening_number : Listening number := by
  refine listening_line.bind fun line => ?_
  split
  · exact .pure _
  · exact listening_fail _

theorem listening_status : Listening status := by
  refine (listening_take _).bind fun reply => ?_
  dsimp only
  split
  · exact listening_fail _
  · split
    · exact .pure _
    · split
      · exact listening_lineEnd.bind fun _ => .pure _
      · exact listening_lineRest.bind fun _ => .pure _

end Dialogue

/-! ## Silent actions -/

section Silence

variable {σ : Type} [OnLine σ]

theorem silent_pure : Silent (pure () : ExceptT Failure (StateM σ) Unit) :=
  fun s => ⟨s, rfl, rfl, rfl⟩

theorem Silent.ite {c : Prop} [Decidable c] {action other : ExceptT Failure (StateM σ) Unit}
    (h : Silent action) (h' : Silent other) : Silent (if c then action else other) := by
  split
  · exact h
  · exact h'

theorem Session.silent_notify (notice : Notice) :
    Silent (Session.notify notice : SessionM δ Unit) := fun _ => ⟨_, rfl, rfl, rfl⟩

/-- Telling something when tracing is on adds notices, if anything. -/
theorem Session.traceNotice_apply (notice : Notice) (s : Session δ) : ∃ notices,
    (Session.traceNotice notice : SessionM δ Unit) s =
      (.ok (), { s with journal.notices := notices }) := by
  have run : (Session.traceNotice notice : SessionM δ Unit) s =
      (if s.settings.trace then Session.notify notice else pure ()) s := rfl
  rw [run]
  split
  · exact ⟨_, rfl⟩
  · exact ⟨s.journal.notices, rfl⟩

theorem Session.silent_traceNotice (notice : Notice) :
    Silent (Session.traceNotice notice : SessionM δ Unit) := by
  intro s
  obtain ⟨notices, run⟩ := Session.traceNotice_apply notice s
  exact ⟨_, run, rfl, rfl⟩

theorem Session.silent_report (wanted : Bool) (progress : Progress) :
    Silent (Session.report wanted progress : SessionM δ Unit) := by
  intro s
  cases wanted with
  | false => exact ⟨s, rfl, rfl, rfl⟩
  | true => exact ⟨_, rfl, rfl, rfl⟩

end Silence

/-! ## One call -/

theorem singleton_eq_append_cons {γ : Type} {c d : γ} {pre post : List γ}
    (h : [c] = pre ++ d :: post) : pre = [] ∧ c = d := by
  cases pre with
  | nil => exact ⟨rfl, (List.cons.inj h).1⟩
  | cons e pre => simp at h

theorem Lawful.write {α : Type} {p : Dialogue α} {before b : Bytes} {o : Except PortFault Nat}
    (due : [b] <+: (p before).said) : Lawful p before [.write b o] where
  writes h := by
    obtain ⟨rfl, hb⟩ := singleton_eq_append_cons h
    obtain ⟨rfl, -⟩ := Call.write.inj hb
    simpa using due
  reads h x hx := by
    obtain ⟨-, hb⟩ := singleton_eq_append_cons h
    cases hb

theorem Lawful.read {α : Type} {p : Dialogue α} {before : Bytes} {n timeout : Nat}
    {o : Except PortFault Bytes}
    (needed : ∀ x : Bytes, x.length < n → (p (before ++ x)).close = .waiting) :
    Lawful p before [.read n timeout o] where
  writes h := by
    obtain ⟨-, hb⟩ := singleton_eq_append_cons h
    cases hb
  reads h x hx := by
    obtain ⟨rfl, hb⟩ := singleton_eq_append_cons h
    obtain ⟨rfl, -, -⟩ := Call.read.inj hb
    simpa using needed x hx

/-- An action that makes one write, which was not taken. -/
theorem Broken.of_write {α : Type} {p : Dialogue α} {before b : Bytes} {o : Except PortFault Nat}
    {failure : Failure} (short : ¬ (Call.write b o).full) (isBreak : failure.isBreak)
    (due : [b] <+: (p before).said) : Broken p before [.write b o] (.error failure) where
  last := ⟨[], _, rfl, by simp, short⟩
  result := ⟨failure, rfl, isBreak⟩
  said := by
    rw [received_write, List.append_nil]
    exact due
  waits := .inl ⟨[], b, o, rfl⟩

/-- An action that makes one read, which brought too little. -/
theorem Broken.of_read {α : Type} {p : Dialogue α} {before : Bytes} {n timeout : Nat}
    {o : Except PortFault Bytes} {failure : Failure} (short : ¬ (Call.read n timeout o).full)
    (isBreak : failure.isBreak)
    (waits : p (before ++ received [.read n timeout o]) = ⟨[], .waiting⟩) :
    Broken p before [.read n timeout o] (.error failure) where
  last := ⟨[], _, rfl, by simp, short⟩
  result := ⟨failure, rfl, isBreak⟩
  said := List.nil_prefix
  waits := .inr waits

namespace Session

/-- One byte is held back at most. -/
theorem length_held (s : Session δ) : (held s).length ≤ 1 := by
  show s.heldBack.toList.length ≤ 1
  cases s.heldBack <;> simp

/-- The end of `readExact`, once the bytes are there: notices, and the check that none is
    missing. -/
theorem checkArrived (n : Nat) (b : Bytes) (s : Session δ) :
    ∃ notices, (do
        if 1 < n then traceNotice (.received b)
        if b.length < n then
          notify (.cutShort b.length n)
          failLink (.timeout none)
        return b : SessionM δ Bytes) s =
      (if b.length < n then .error (.connecting (.timeout none)) else .ok b,
        { s with journal.notices := notices }) := by
  have last (s : Session δ) : ∃ notices, (do
        if b.length < n then
          notify (.cutShort b.length n)
          failLink (.timeout none)
        return b : SessionM δ Bytes) s =
      (if b.length < n then .error (.connecting (.timeout none)) else .ok b,
        { s with journal.notices := notices }) := by
    by_cases short : b.length < n
    · refine ⟨s.journal.notices.push (.cutShort b.length n), ?_⟩
      simp only [short, ↓reduceIte, bind_apply, notify, modify_apply, failLink, throw_apply]
    · exact ⟨s.journal.notices, by simp only [short, ↓reduceIte, pure_apply]⟩
  by_cases long : 1 < n
  · obtain ⟨first, run⟩ := traceNotice_apply (.received b) s
    obtain ⟨notices, run'⟩ := last { s with journal.notices := first }
    refine ⟨notices, ?_⟩
    simp only [long, ↓reduceIte, bind_apply, run]
    exact run'
  · simp only [long, ↓reduceIte]
    exact last s

variable [Transport δ]

/-- What comes of a write of `b` by the outcome of its call. -/
def writeResult (b : Bytes) : Except PortFault Nat → Except Failure Unit
  | .error fault => .error (.connecting (.ofPort fault))
  | .ok taken =>
    if taken = b.length then .ok () else .error (.connecting (.shortWrite b.length taken))

omit [Transport δ] in
/-- A write succeeds when its call took all, -/
theorem full_of_writeResult {b : Bytes} {outcome : Except PortFault Nat}
    (h : writeResult b outcome = .ok ()) : (Call.write b outcome).full := by
  cases outcome with
  | error fault => cases h
  | ok taken =>
    by_cases all : taken = b.length
    · exact all
    · simp only [writeResult, all, ↓reduceIte] at h
      cases h

omit [Transport δ] in
/-- and fails when it did not. -/
theorem short_of_writeResult {b : Bytes} {outcome : Except PortFault Nat} {failure : Failure}
    (h : writeResult b outcome = .error failure) :
    ¬ (Call.write b outcome).full ∧ failure.isBreak := by
  cases outcome with
  | error fault =>
    cases h
    exact ⟨id, LinkFault.isBreak_ofPort fault⟩
  | ok taken =>
    by_cases all : taken = b.length
    · simp only [writeResult, all, ↓reduceIte] at h
      cases h
    · simp only [writeResult, all, ↓reduceIte] at h
      cases h
      exact ⟨all, trivial⟩

/-- What writing does: one call, and notices. -/
theorem writeBytes_apply (b : Bytes) (s : Session δ) : ∃ notices,
    (writeBytes b : SessionM δ Unit) s = (writeResult b (Transport.write s.device b).1,
      { s with
        device := (Transport.write s.device b).2
        journal.calls := s.journal.calls.push (.write b (Transport.write s.device b).1)
        journal.notices := notices }) := by
  obtain ⟨notices, run⟩ := traceNotice_apply (.sending b) s
  refine ⟨notices, ?_⟩
  rw [writeBytes, bind_apply, run]
  rcases call : Transport.write s.device b with ⟨fault | taken, device⟩
  · simp [callWrite, call, ofOutcome, failLink, writeResult]
  · by_cases all : taken = b.length <;>
      simp [callWrite, call, ofOutcome, failLink, writeResult, all]

theorem writeBytes_follows (b : Bytes) :
    Follows (writeBytes b : SessionM δ Unit) (Dialogue.say b) := by
  intro s
  obtain ⟨notices, run⟩ := writeBytes_apply b s
  have due : [b] <+: (Dialogue.say b (held s)).said := List.prefix_refl _
  refine ⟨[.write b (Transport.write s.device b).1], ?_, .write due, ?_⟩
  · rw [run]
    exact Array.toList_push
  rw [run]
  cases result : writeResult b (Transport.write s.device b).1 with
  | error failure =>
    obtain ⟨short, isBreak⟩ := short_of_writeResult result
    exact .inr (.of_write short isBreak due)
  | ok _ =>
    refine .inl ⟨fun c mem => ?_, fun more => ?_⟩
    · rw [List.mem_singleton.mp mem]
      exact full_of_writeResult result
    · simp [Dialogue.say, Close.ofResult, held]

theorem readExact_follows (n : Nat) :
    Follows (readExact n : SessionM δ Bytes) (Dialogue.take n) := by
  intro s
  by_cases none : n = 0
  · subst none
    exact .of_quiet rfl fun more => rfl
  have one := length_held s
  by_cases short : (held s).length < n
  · -- what is held back is not enough, so one read call asks for the rest
    have law : ∀ o, Lawful (Dialogue.take n) (held s) [.read (n - (held s).length) s.timeout o] :=
      fun o => .read fun x hx => by
        rw [Dialogue.take_of_lt (by rw [List.length_append]; omega)]
    have short' : s.heldBack.toList.length < n := short
    rcases call : Transport.read s.device (n - s.heldBack.toList.length) s.timeout with
      ⟨fault | b, device⟩
    · refine ⟨_, ?_, law (.error fault), .inr ?_⟩
      · simp only [readExact, none, ↓reduceIte, bind_apply, takeHeldBack, short', callRead, call,
          ofOutcome, failLink, throw_apply]
        exact Array.toList_push
      · simp only [readExact, none, ↓reduceIte, bind_apply, takeHeldBack, short', callRead, call,
          ofOutcome, failLink, throw_apply]
        refine .of_read id (LinkFault.isBreak_ofPort fault) ?_
        rw [received_read_error, List.append_nil]
        exact Dialogue.take_of_lt short
    · let arrived : Session δ := { s with
          device
          heldBack := .none
          journal.calls := s.journal.calls.push
            (.read (n - s.heldBack.toList.length) s.timeout (.ok b)) }
      obtain ⟨notices, run⟩ := checkArrived n (held s ++ b) arrived
      have whole : readExact n s =
          (if (held s ++ b).length < n then .error (.connecting (.timeout .none))
            else .ok (held s ++ b), { arrived with journal.notices := notices }) := by
        simp only [readExact, none, ↓reduceIte, bind_apply, takeHeldBack, short', callRead, call,
          ofOutcome, pure_apply]
        exact run
      refine ⟨_, ?_, law (.ok b), ?_⟩
      · rw [whole]
        exact Array.toList_push
      rw [whole]
      have fits : b.length ≤ n - (held s).length := Transport.length_read_le call
      by_cases missing : (held s ++ b).length < n
      · right
        rw [if_pos missing]
        refine .of_read ?_ trivial ?_
        · rw [List.length_append] at missing
          show ¬ b.length = n - (held s).length
          omega
        · rw [received_read]
          exact Dialogue.take_of_lt missing
      · left
        rw [if_neg missing]
        rw [List.length_append] at missing
        refine ⟨fun c hc => ?_, fun more => ?_⟩
        · rw [List.mem_singleton.mp hc]
          show b.length = n - (held s).length
          omega
        · have exact : (held s ++ b).length = n := by
            rw [List.length_append]
            omega
          rw [received_read, ← exact]
          exact Dialogue.take_append _ _
  · -- the byte held back is all that is wanted
    have exact : (held s).length = n := by omega
    obtain ⟨notices, run⟩ := checkArrived n (held s) { s with heldBack := .none }
    have whole : readExact n s =
        (.ok (held s), { s with heldBack := .none, journal.notices := notices }) := by
      have rest : ¬ s.heldBack.toList.length < n := short
      simp only [readExact, none, ↓reduceIte, bind_apply, takeHeldBack, rest, pure_apply,
        List.append_nil]
      rw [show s.heldBack.toList = held s from rfl]
      simpa [exact] using run
    refine .of_quiet (by rw [whole]; rfl) fun more => ?_
    rw [whole, ← exact]
    exact Dialogue.take_append _ _

/-! ## Lines -/

theorem readByte_follows : Follows (readByte : SessionM δ UInt8) Dialogue.byte := by
  have one : (do return (← Dialogue.take 1).headD 0) = Dialogue.byte := funext Dialogue.take_one
  rw [← one]
  exact (readExact_follows 1).bind fun b => follows_pure _

theorem heldBack_of_readByte {s s' : Session δ} {c : UInt8} (h : readByte s = (.ok c, s')) :
    s'.heldBack = none := by
  rw [readByte_eq] at h
  cases held : s.heldBack with
  | some d =>
    simp only [held] at h
    obtain ⟨-, rfl⟩ := Prod.mk.inj h
    rfl
  | none =>
    simp only [held] at h
    split at h
    · cases h
    · cases h
    · obtain ⟨-, rfl⟩ := Prod.mk.inj h
      rfl

theorem finishLine_follows : Follows (finishLine : SessionM δ Unit) Dialogue.lineEnd := by
  intro s
  -- a byte that is held back is back at the front of the input
  let keep (c : UInt8) : Dialogue Unit := fun input =>
    ⟨[], .done () (if c = Bytes.lf then input else c :: input)⟩
  have split : Dialogue.lineEnd = Dialogue.byte >>= keep := by
    funext input
    cases input <;> rfl
  rw [split]
  refine (readByte_follows s).bind fun c s' read => ?_
  have none : s'.heldBack = none := heldBack_of_readByte read
  by_cases lf : c = Bytes.lf
  · simp only [lf, ne_eq, not_true_eq_false, ↓reduceIte, keep]
    exact .of_quiet rfl fun more => rfl
  · simp only [lf, ne_eq, not_false_eq_true, ↓reduceIte, keep]
    refine .of_quiet rfl fun more => ?_
    simp [holdBack, held, none, Close.ofResult]

theorem readLineFrom_follows (line : Bytes) (room : Nat) :
    Follows (readLineFrom line room : SessionM δ Bytes) (Dialogue.lineFrom line room) := by
  induction room generalizing line with
  | zero =>
    rw [readLineFrom, Dialogue.lineFrom]
    refine readByte_follows.bind fun c => ?_
    split
    · exact follows_pure line
    · split
      · exact finishLine_follows.bind fun _ => follows_pure line
      · exact follows_throw _
  | succ room ih =>
    rw [readLineFrom, Dialogue.lineFrom]
    refine readByte_follows.bind fun c => ?_
    split
    · exact follows_pure line
    · split
      · exact finishLine_follows.bind fun _ => follows_pure line
      · exact ih _

theorem readLine_follows : Follows (readLine : SessionM δ String) Dialogue.line :=
  (readLineFrom_follows [] lineLimit).bind fun _ =>
    (silent_traceNotice _).then (follows_pure _)

theorem drainLine_eq : (drainLine : SessionM δ Unit) = (do
    let c ← readByte
    if c = Bytes.lf then return ()
    else if c = Bytes.cr then finishLine
    else drainLine) := by
  funext s
  rw [drainLine, bind_apply]
  split
  · next failure s' run => rw [run]
  · next c s' run =>
    rw [run]
    dsimp only
    split
    · rfl
    · split <;> rfl

theorem drainLine_follows : Follows (drainLine : SessionM δ Unit) Dialogue.lineRest := by
  intro s
  -- every byte read lowers the bound on those still to come
  induction bound : s.pending using Nat.strongRecOn generalizing s with
  | ind n ih =>
    rw [drainLine_eq, Dialogue.lineRest_eq]
    refine (readByte_follows s).bind fun c s' read => ?_
    split
    · exact follows_pure () s'
    · split
      · exact finishLine_follows s'
      · exact ih _ (bound ▸ pending_of_readByte read) s' rfl

theorem readNumber_follows : Follows (readNumber : SessionM δ UInt32) Dialogue.number := by
  refine readLine_follows.bind fun line => ?_
  cases Text.readNumber 10 Text.limit32 (Text.trim line.toList) with
  | ok n => exact follows_pure n.toUInt32
  | error fault => exact follows_throw _

theorem readStatus_follows : Follows (readStatus : SessionM δ Wire.Status) Dialogue.status := by
  refine (readExact_follows statusLength).bind fun reply => ?_
  dsimp only
  cases Text.readNumber 10 Text.limit32
      ((reply.takeWhile isDigit).map fun c => Char.ofNat c.toNat) with
  | error fault => exact follows_throw _
  | ok n =>
    dsimp only
    split
    · exact follows_pure _
    · split
      · exact finishLine_follows.bind fun _ => follows_pure _
      · exact drainLine_follows.bind fun _ => follows_pure _

end Session
end SerialIsp
