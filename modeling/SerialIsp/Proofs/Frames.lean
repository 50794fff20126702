import SerialIsp.Proofs.Dialogue.Replies

/-!
# Frames

What an operation leaves alone. A relation between a session and a later one is a *frame* when
the single steps respect it: telling something, one write call, one read call, taking the byte
that is held back or holding back one that is no line feed, and waiting with another patience.
Whatever is put together from such steps respects it as well, so for the next thing that must
not change there is nothing to prove but these steps.

Only the exchange of a command waits with another patience. A relation that does without that
step (`Steps`) is respected by everything whose commands are known to respect it. One that knows
nothing of reports either (`QuietSteps`) is respected by everything that reports no progress.

Three things are no such step: entering a phase, remembering a crystal frequency, and dropping
the input.
-/

namespace SerialIsp

/-! ## Actions that stay in a relation -/

section

variable {σ α β : Type} {r : σ → σ → Prop}

/-- Every run ends in a state related to the one it began in, whether it succeeds or fails. -/
def Stays (r : σ → σ → Prop) (action : ExceptT Failure (StateM σ) α) : Prop :=
  ∀ s, r s (action s).2

theorem Stays.of_run {action : ExceptT Failure (StateM σ) α} {s s' : σ} {result : Except Failure α}
    (h : Stays r action) (run : action s = (result, s')) : r s s' := by
  have here := h s
  rwa [run] at here

theorem stays_pure (refl : ∀ s, r s s) (a : α) :
    Stays r (pure a : ExceptT Failure (StateM σ) α) := fun s => refl s

theorem stays_throw (refl : ∀ s, r s s) (failure : Failure) :
    Stays r (throw failure : ExceptT Failure (StateM σ) α) := fun s => refl s

theorem Stays.bind {action : ExceptT Failure (StateM σ) α}
    {next : α → ExceptT Failure (StateM σ) β} (trans : ∀ {s t u}, r s t → r t u → r s u)
    (first : Stays r action) (second : ∀ a, Stays r (next a)) : Stays r (action >>= next) := by
  intro s
  rw [run_bind]
  rcases run : action s with ⟨failure | a, s'⟩
  · exact first.of_run run
  · exact trans (first.of_run run) (second a s')

theorem Stays.ite {c : Prop} [Decidable c] {action other : ExceptT Failure (StateM σ) α}
    (h : c → Stays r action) (h' : ¬ c → Stays r other) :
    Stays r (if c then action else other) := by
  split
  · next holds => exact h holds
  · next fails => exact h' fails

end

namespace Session

variable {δ α β : Type} [Transport δ]

/-- The relation holds along every single step but reports, with the timeout in force. -/
structure QuietSteps (r : Session δ → Session δ → Prop) : Prop where
  refl : ∀ s, r s s
  trans : ∀ {s t u}, r s t → r t u → r s u
  noted : ∀ s notices, r s { s with journal.notices := notices }
  took : ∀ s, r s { s with heldBack := none }
  held : ∀ s c, c ≠ Bytes.lf → r s { s with heldBack := some c }
  wrote : ∀ b, Stays r (callWrite b)
  read : ∀ n, Stays r (callRead n)

/-- The relation holds along every single step, with the timeout in force. -/
structure Steps (r : Session δ → Session δ → Prop) : Prop extends QuietSteps r where
  told : ∀ s notices progress,
    r s { s with journal.notices := notices, journal.progress := progress }
  noted := fun s notices => told s notices s.journal.progress

/-- **Frames.** The relation holds along every single step. -/
structure Frame (r : Session δ → Session δ → Prop) : Prop extends Steps r where
  patient : ∀ {s s' timeout}, r { s with timeout := timeout } s' →
    r s { s' with timeout := s.timeout }

/-- What dropping the input does. -/
theorem clearInput_apply (s : Session δ) : (clearInput : SessionM δ Unit) s =
    ((Transport.clear s.device).1.mapError fun fault => .connecting (.ofPort fault),
      { s with
        device := (Transport.clear s.device).2
        heldBack := none
        journal.calls := s.journal.calls.push (.clear (Transport.clear s.device).1) }) := by
  simp only [clearInput, bind_apply, modify_apply, callClear]
  rcases Transport.clear s.device with ⟨fault | _, device⟩
  · rfl
  · rfl

omit [Transport δ] in
theorem stays_during {r : Session δ → Session δ → Prop} (kind : Wire.CommandKind)
    {action : SessionM δ α} (h : Stays r action) : Stays r (during kind action) := by
  intro s
  rw [during]
  rcases run : action s with ⟨failure | a, s'⟩
  · exact h.of_run run
  · exact h.of_run run

omit [Transport δ] in
theorem stays_attempt {r : Session δ → Session δ → Prop} {action : SessionM δ α}
    (h : Stays r action) : Stays r (attempt action) := h

omit [Transport δ] in
theorem stays_withTimeout {r : Session δ → Session δ → Prop}
    (patient : ∀ {s s' timeout}, r { s with timeout := timeout } s' →
      r s { s' with timeout := s.timeout })
    (timeout : Nat) {action : SessionM δ α} (h : Stays r action) :
    Stays r (withTimeout timeout action) := fun _ => patient (h _)

/-- What depends on nothing but the settings, the phase and the crystal frequency stays as it
    is. -/
theorem frame_of_fixed {γ : Type} (f : Settings → Phase → Option UInt32 → γ) :
    Frame (δ := δ) fun s s' =>
      f s'.settings s'.phase s'.crystal = f s.settings s.phase s.crystal where
  refl _ := rfl
  trans first second := second.trans first
  told _ _ _ := rfl
  took _ := rfl
  held _ _ _ := rfl
  wrote _ _ := rfl
  read _ _ := rfl
  patient same := same

theorem frame_phase : Frame (δ := δ) fun s s' => s'.phase = s.phase :=
  frame_of_fixed fun _ phase _ => phase

theorem frame_crystal : Frame (δ := δ) fun s s' => s'.crystal = s.crystal :=
  frame_of_fixed fun _ _ crystal => crystal

theorem frame_settings : Frame (δ := δ) fun s s' => s'.settings = s.settings :=
  frame_of_fixed fun settings _ _ => settings

/-- Who waits with another patience goes back to the one before. -/
theorem frame_timeout : Frame (δ := δ) fun s s' => s'.timeout = s.timeout where
  refl _ := rfl
  trans first second := second.trans first
  told _ _ _ := rfl
  took _ := rfl
  held _ _ _ := rfl
  wrote _ _ := rfl
  read _ _ := rfl
  patient _ := rfl

/-- Dropping the input is no such step, but it leaves all of this alone too. -/
theorem stays_clearInput {γ : Type} (f : Settings → Phase → Option UInt32 → Nat → γ) :
    Stays (fun s s' => f s'.settings s'.phase s'.crystal s'.timeout =
      f s.settings s.phase s.crystal s.timeout) (clearInput : SessionM δ Unit) := by
  intro s
  rw [clearInput_apply]

/-- Calls were made in between, and none of them dropped the input. -/
def Undropped (s s' : Session δ) : Prop :=
  ∃ cs, calls s' = calls s ++ cs ∧ ∀ outcome, Call.clear outcome ∉ cs

omit [Transport δ] in
theorem Undropped.of_same {s s' : Session δ} (same : calls s' = calls s) : Undropped s s' :=
  ⟨[], by rw [same, List.append_nil], fun _ => List.not_mem_nil⟩

omit [Transport δ] in
theorem Undropped.of_call {s s' : Session δ} {c : Call} (call : calls s' = calls s ++ [c])
    (other : ∀ outcome, c ≠ .clear outcome) : Undropped s s' :=
  ⟨[c], call, fun outcome mem => other outcome (List.mem_singleton.mp mem).symm⟩

theorem frame_undropped : Frame (Undropped (δ := δ)) where
  refl _ := .of_same rfl
  trans := by
    rintro s t u ⟨cs, grown, kept⟩ ⟨ds, grown', kept'⟩
    refine ⟨cs ++ ds, by rw [grown', grown, List.append_assoc], fun outcome mem => ?_⟩
    exact (List.mem_append.mp mem).elim (kept outcome) (kept' outcome)
  told _ _ _ := .of_same rfl
  took _ := .of_same rfl
  held _ _ _ := .of_same rfl
  wrote _ _ := .of_call Array.toList_push fun _ => nofun
  read _ _ := .of_call Array.toList_push fun _ => nofun
  patient kept := kept

namespace QuietSteps

variable {r : Session δ → Session δ → Prop} (steps : QuietSteps r)

include steps

theorem pure (a : α) : Stays r (Pure.pure a : SessionM δ α) := stays_pure steps.refl a

theorem throw (failure : Failure) : Stays r (MonadExcept.throw failure : SessionM δ α) :=
  stays_throw steps.refl failure

theorem bind {action : SessionM δ α} {next : α → SessionM δ β} (first : Stays r action)
    (second : ∀ a, Stays r (next a)) : Stays r (action >>= next) := first.bind steps.trans second

theorem get {next : Session δ → SessionM δ α} (h : ∀ s, Stays r (next s)) :
    Stays r (MonadState.get >>= next) := steps.bind steps.refl h

theorem notify (notice : Notice) : Stays r (Session.notify notice : SessionM δ Unit) :=
  fun s => steps.noted s _

theorem traceNotice (notice : Notice) :
    Stays r (Session.traceNotice notice : SessionM δ Unit) :=
  steps.get fun _ => .ite (fun _ => steps.notify notice) fun _ => steps.pure ()

theorem ofOutcome (outcome : Except PortFault α) :
    Stays r (Session.ofOutcome outcome : SessionM δ α) := by
  cases outcome with
  | ok a => exact steps.pure a
  | error fault => exact steps.throw _

theorem ofExcept (result : Except Failure α) :
    Stays r (Session.ofExcept result : SessionM δ α) := by
  cases result with
  | ok a => exact steps.pure a
  | error failure => exact steps.throw failure

/-! ## Writing and reading -/

theorem writeBytes (b : Bytes) : Stays r (Session.writeBytes b : SessionM δ Unit) := by
  refine steps.bind (steps.traceNotice _) fun _ => steps.bind (steps.wrote b) fun outcome => ?_
  refine steps.bind (steps.ofOutcome outcome) fun written => .ite (fun _ => ?_) fun _ => ?_
  · exact steps.throw _
  · exact steps.pure ()

theorem readExact (n : Nat) : Stays r (Session.readExact n : SessionM δ Bytes) := by
  refine .ite (fun _ => steps.pure []) fun _ => ?_
  refine steps.bind steps.took fun held => ?_
  -- the checks on what arrived tell notices, and may fail
  have checked (b : Bytes) : Stays r (do
      if 1 < n then Session.traceNotice (.received b)
      if b.length < n then
        Session.notify (.cutShort b.length n)
        failLink (.timeout none)
      return b : SessionM δ Bytes) := by
    have last : Stays r (do
        if b.length < n then
          Session.notify (.cutShort b.length n)
          failLink (.timeout none)
        return b : SessionM δ Bytes) :=
      .ite (fun _ => steps.bind (steps.notify _) fun _ => steps.throw _) fun _ => steps.pure b
    exact .ite (fun _ => steps.bind (steps.traceNotice _) fun _ => last) fun _ => last
  refine .ite (fun _ => ?_) fun _ => checked _
  exact steps.bind (steps.read _) fun outcome =>
    steps.bind (steps.ofOutcome outcome) fun arrived => checked _

theorem readByte : Stays r (Session.readByte : SessionM δ UInt8) :=
  steps.bind (steps.readExact 1) fun _ => steps.pure _

theorem finishLine : Stays r (Session.finishLine : SessionM δ Unit) :=
  steps.bind steps.readByte fun c =>
    .ite (fun other s => steps.held s c other) fun _ => steps.pure ()

theorem readLineFrom (line : Bytes) (room : Nat) :
    Stays r (Session.readLineFrom line room : SessionM δ Bytes) := by
  induction room generalizing line with
  | zero =>
    rw [Session.readLineFrom]
    refine steps.bind steps.readByte fun c => .ite (fun _ => steps.pure line) fun _ => ?_
    exact .ite (fun _ => steps.bind steps.finishLine fun _ => steps.pure line)
      fun _ => steps.throw _
  | succ room ih =>
    rw [Session.readLineFrom]
    refine steps.bind steps.readByte fun c => .ite (fun _ => steps.pure line) fun _ => ?_
    exact .ite (fun _ => steps.bind steps.finishLine fun _ => steps.pure line) fun _ => ih _

theorem readLine : Stays r (Session.readLine : SessionM δ String) :=
  steps.bind (steps.readLineFrom [] lineLimit) fun _ =>
    steps.bind (steps.traceNotice _) fun _ => steps.pure _

theorem drainLine : Stays r (Session.drainLine : SessionM δ Unit) := by
  intro s
  -- every byte read lowers the bound on those still to come
  induction bound : s.pending using Nat.strongRecOn generalizing s with
  | ind n ih =>
    rw [drainLine_eq, bind_apply]
    rcases read : Session.readByte s with ⟨failure | c, s'⟩
    · exact steps.readByte.of_run read
    · refine steps.trans (steps.readByte.of_run read) ?_
      dsimp only
      split
      · exact steps.refl s'
      · split
        · exact steps.finishLine s'
        · exact ih _ (bound ▸ pending_of_readByte read) s' rfl

theorem readNumber : Stays r (Session.readNumber : SessionM δ UInt32) := by
  refine steps.bind steps.readLine fun line => ?_
  cases Text.readNumber 10 Text.limit32 (Text.trim line.toList) with
  | ok n => exact steps.pure _
  | error fault => exact steps.throw _

theorem readStatus : Stays r (Session.readStatus : SessionM δ Wire.Status) := by
  refine steps.bind (steps.readExact statusLength) fun reply => ?_
  dsimp only
  cases Text.readNumber 10 Text.limit32
      ((reply.takeWhile isDigit).map fun c => Char.ofNat c.toNat) with
  | error fault => exact steps.throw _
  | ok n =>
    refine .ite (fun _ => steps.pure _) fun _ => .ite (fun _ => ?_) fun _ => ?_
    · exact steps.bind steps.finishLine fun _ => steps.pure _
    · exact steps.bind steps.drainLine fun _ => steps.pure _

/-! ## Commands -/

theorem command {c : Wire.Command}
    (asked : Stays r (Session.commandStatus c : SessionM δ Wire.Status)) :
    Stays r (Session.command c : SessionM δ Unit) := by
  refine steps.bind asked fun status => .ite (fun _ => ?_) fun _ => steps.pure ()
  refine steps.get fun _ => .ite (fun _ => ?_) fun _ => steps.throw _
  exact steps.bind (steps.notify _) fun _ => steps.throw _

theorem replyNumber (kind : Wire.CommandKind) :
    Stays r (Session.replyNumber kind : SessionM δ UInt32) := stays_during kind steps.readNumber

theorem replyNumbers (kind : Wire.CommandKind) (n : Nat) :
    Stays r (Session.replyNumbers kind n : SessionM δ (List UInt32)) := by
  induction n with
  | zero => exact steps.pure []
  | succ n ih =>
    refine steps.bind (steps.replyNumber kind) fun first => ?_
    exact steps.bind ih fun _ => steps.pure _

theorem query {c : Wire.Command}
    (asked : Stays r (Session.commandStatus c : SessionM δ Wire.Status)) :
    Stays r (Session.query c : SessionM δ (List UInt32)) :=
  steps.bind (steps.command asked) fun _ => steps.replyNumbers _ _

theorem readPartId
    (asked : Stays r (Session.commandStatus .readPartId : SessionM δ Wire.Status)) :
    Stays r (Session.readPartId : SessionM δ UInt32) :=
  steps.bind (steps.query asked) fun _ => steps.pure _

theorem commandStatus
    (patient : ∀ {s s' timeout}, r { s with timeout := timeout } s' →
      r s { s' with timeout := s.timeout }) (c : Wire.Command) :
    Stays r (Session.commandStatus c : SessionM δ Wire.Status) := by
  refine steps.bind (steps.notify _) fun _ => steps.get fun _ => ?_
  refine steps.bind (stays_during c.kind (stays_withTimeout patient _ ?_)) fun status => ?_
  · exact steps.bind (steps.writeBytes _) fun _ => steps.readStatus
  · exact steps.bind (steps.traceNotice _) fun _ => steps.pure status

end QuietSteps

theorem Steps.report {r : Session δ → Session δ → Prop} (steps : Steps r) (wanted : Bool)
    (progress : Progress) : Stays r (Session.report wanted progress : SessionM δ Unit) :=
  .ite (fun _ s => steps.told s _ _) fun _ => steps.pure ()

namespace Frame

variable {r : Session δ → Session δ → Prop} (frame : Frame r)

include frame

theorem commandStatus (c : Wire.Command) :
    Stays r (Session.commandStatus c : SessionM δ Wire.Status) :=
  frame.toQuietSteps.commandStatus frame.patient c

theorem readPartId : Stays r (Session.readPartId : SessionM δ UInt32) :=
  frame.toQuietSteps.readPartId (frame.commandStatus _)

end Frame

/-! ## What is said first

What comes behind may call the transport as it likes, as long as it does not drop the input. -/

/-- Actions whose first call writes this. -/
def Opens (b : Bytes) (action : SessionM δ α) : Prop :=
  ∀ s, ∃ outcome post, calls (action s).2 = calls s ++ .write b outcome :: post

section

variable {b : Bytes} {action : SessionM δ α}

theorem opens_writeBytes (b : Bytes) : Opens b (writeBytes b : SessionM δ Unit) := by
  intro s
  obtain ⟨notices, run⟩ := writeBytes_apply b s
  refine ⟨(Transport.write s.device b).1, [], ?_⟩
  rw [run]
  exact Array.toList_push

omit [Transport δ]

theorem Opens.bind {next : α → SessionM δ β} (first : Opens b action)
    (second : ∀ a, Stays Undropped (next a)) : Opens b (action >>= next) := by
  intro s
  obtain ⟨outcome, post, grown⟩ := first s
  rw [run_bind]
  rcases run : action s with ⟨failure | a, s'⟩
  · rw [run] at grown
    exact ⟨outcome, post, grown⟩
  · rw [run] at grown
    obtain ⟨cs, grown', -⟩ := second a s'
    refine ⟨outcome, post ++ cs, ?_⟩
    rw [grown', grown]
    simp

theorem Opens.after {before : SessionM δ Unit} {next : Unit → SessionM δ α}
    (silent : Silent before) (h : Opens b (next ())) : Opens b (before >>= next) := by
  intro s
  obtain ⟨s', run, same, -⟩ := silent s
  rw [run_bind, run, ← same]
  exact h s'

theorem Opens.get {next : Session δ → SessionM δ α} (h : ∀ s, Opens b (next s)) :
    Opens b (MonadState.get >>= next) := fun s => h s s

theorem Opens.during (h : Opens b action) (kind : Wire.CommandKind) :
    Opens b (Session.during kind action) := by
  intro s
  obtain ⟨outcome, post, grown⟩ := h s
  refine ⟨outcome, post, ?_⟩
  rw [Session.during]
  rcases run : action s with ⟨_ | _, s'⟩ <;>
  · rw [run] at grown
    exact grown

theorem Opens.withTimeout (h : Opens b action) (timeout : Nat) :
    Opens b (Session.withTimeout timeout action) := fun s => h { s with timeout := timeout }

end

theorem opens_commandStatus (c : Wire.Command) :
    Opens c.line (commandStatus c : SessionM δ Wire.Status) := by
  have frame := frame_undropped (δ := δ)
  have exchange : Opens c.line (do writeBytes c.line; readStatus : SessionM δ Wire.Status) :=
    (opens_writeBytes _).bind fun _ => frame.readStatus
  refine .after (silent_notify _) (.get fun s => .bind (.during (.withTimeout exchange _) _) ?_)
  exact fun _ => frame.bind (frame.traceNotice _) fun _ => frame.pure _

theorem opens_command (c : Wire.Command) : Opens c.line (command c : SessionM δ Unit) := by
  have frame := frame_undropped (δ := δ)
  refine (opens_commandStatus c).bind fun status =>
    .ite (fun _ => frame.get fun _ => ?_) fun _ => frame.pure ()
  exact .ite (fun _ => frame.bind (frame.notify _) fun _ => frame.throw _) fun _ => frame.throw _

theorem opens_query (c : Wire.Command) : Opens c.line (query c : SessionM δ (List UInt32)) :=
  (opens_command c).bind fun _ => frame_undropped.replyNumbers _ _

end Session
end SerialIsp
