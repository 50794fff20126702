import SerialIsp.Proofs.Dialogue.Replies

/-!
# Twins

Two sessions are twins when nothing on the line can tell them apart: their transports answer
alike, and they agree on everything their own operations look at. What they were told to
observe may differ, and so may what they remember of the past: the calls made before they
became twins, and the crystal frequency, where it is not asked for.

Two actions *agree* when from twins they come to the same result and leave twins again. It is
the relation of two runs, step by step, and its rules follow the ways in which actions are put
together. What tells notices or reports progress agrees with anything else that does no more.
-/

namespace SerialIsp

/-! ## Agreement of actions -/

section

variable {σ τ α β : Type} {R : σ → τ → Prop}

/-- From related states, two actions come to the same result, in related states. -/
def Agree (R : σ → τ → Prop) (action : ExceptT Failure (StateM σ) α)
    (other : ExceptT Failure (StateM τ) α) : Prop :=
  ∀ s t, R s t → (action s).1 = (other t).1 ∧ R (action s).2 (other t).2

theorem agree_pure (a : α) :
    Agree R (pure a : ExceptT Failure (StateM σ) α) (pure a : ExceptT Failure (StateM τ) α) :=
  fun _ _ h => ⟨rfl, h⟩

theorem agree_throw (failure : Failure) :
    Agree R (throw failure : ExceptT Failure (StateM σ) α)
      (throw failure : ExceptT Failure (StateM τ) α) := fun _ _ h => ⟨rfl, h⟩

theorem Agree.bind {action : ExceptT Failure (StateM σ) α}
    {other : ExceptT Failure (StateM τ) α} {next : α → ExceptT Failure (StateM σ) β}
    {next' : α → ExceptT Failure (StateM τ) β} (first : Agree R action other)
    (second : ∀ a, Agree R (next a) (next' a)) : Agree R (action >>= next) (other >>= next') := by
  intro s t h
  obtain ⟨same, related⟩ := first s t h
  rw [run_bind, run_bind]
  rcases run : action s with ⟨result, s'⟩
  rcases run' : other t with ⟨result', t'⟩
  rw [run, run'] at same related
  obtain rfl : result = result' := same
  cases result with
  | error failure => exact ⟨rfl, related⟩
  | ok a => exact second a s' t' related

/-- What is read of the states may be used, as far as it agrees. -/
theorem Agree.get {next : σ → ExceptT Failure (StateM σ) α}
    {next' : τ → ExceptT Failure (StateM τ) α}
    (h : ∀ s t, R s t → Agree R (next s) (next' t)) :
    Agree R (MonadState.get >>= next) (MonadState.get >>= next') := by
  intro s t related
  rw [run_bind, run_bind]
  exact h s t related s t related

theorem Agree.ite {c : Prop} [Decidable c] {action action' : ExceptT Failure (StateM σ) α}
    {other other' : ExceptT Failure (StateM τ) α} (h : c → Agree R action other)
    (h' : ¬ c → Agree R action' other') :
    Agree R (if c then action else action') (if c then other else other') := by
  by_cases holds : c
  · rw [if_pos holds, if_pos holds]
    exact h holds
  · rw [if_neg holds, if_neg holds]
    exact h' holds

theorem Agree.tryCatch {action : ExceptT Failure (StateM σ) α}
    {other : ExceptT Failure (StateM τ) α} {handler : Failure → ExceptT Failure (StateM σ) α}
    {handler' : Failure → ExceptT Failure (StateM τ) α} (first : Agree R action other)
    (second : ∀ failure, Agree R (handler failure) (handler' failure)) :
    Agree R (tryCatch action handler) (tryCatch other handler') := by
  intro s t h
  obtain ⟨same, related⟩ := first s t h
  rw [run_tryCatch, run_tryCatch]
  rcases run : action s with ⟨result, s'⟩
  rcases run' : other t with ⟨result', t'⟩
  rw [run, run'] at same related
  obtain rfl : result = result' := same
  cases result with
  | error failure => exact second failure s' t' related
  | ok a => exact ⟨rfl, related⟩

end

/-! ## Twin sessions -/

namespace Session

section

variable {δ ε α β : Type}

/-- What twins share: their transports are in this relation, their crystal frequencies in that
    one, and since these calls on either side they have made the same ones. -/
structure Kinship (δ ε : Type) where
  device : δ → ε → Prop
  crystal : Option UInt32 → Option UInt32 → Prop
  before : List Call
  before' : List Call

/-- **Twins.** Nothing is asked of what they were told to observe. -/
structure Twins (κ : Kinship δ ε) (s : Session δ) (t : Session ε) : Prop where
  device : κ.device s.device t.device
  patience : s.settings.timeout = t.settings.timeout
  phase : s.phase = t.phase
  timeout : s.timeout = t.timeout
  crystal : κ.crystal s.crystal t.crystal
  heldBack : s.heldBack = t.heldBack
  since : ∃ cs, calls s = κ.before ++ cs ∧ calls t = κ.before' ++ cs

/-- **Transports that answer alike**, and go on doing so. -/
structure Alike [Transport δ] [Transport ε] (R : δ → ε → Prop) : Prop where
  write : ∀ {d e}, R d e → ∀ b, (Transport.write d b).1 = (Transport.write e b).1 ∧
    R (Transport.write d b).2 (Transport.write e b).2
  read : ∀ {d e}, R d e → ∀ wanted timeout,
    (Transport.read d wanted timeout).1 = (Transport.read e wanted timeout).1 ∧
    R (Transport.read d wanted timeout).2 (Transport.read e wanted timeout).2
  clear : ∀ {d e}, R d e → (Transport.clear d).1 = (Transport.clear e).1 ∧
    R (Transport.clear d).2 (Transport.clear e).2

/-- A kinship that lasts: the transports answer alike, and a crystal frequency that is
    remembered on both sides is shared. -/
structure Kinship.Lasts [Transport δ] [Transport ε] (κ : Kinship δ ε) : Prop where
  alike : Alike κ.device
  crystal : ∀ crystal, κ.crystal (some crystal) (some crystal)

/-! ### Telling -/

/-- Actions that tell notices or report progress, and do nothing else. -/
def Tells (action : SessionM δ Unit) : Prop := ∀ s, ∃ notices progress,
  action s = (.ok (), { s with journal.notices := notices, journal.progress := progress })

theorem tells_notify (notice : Notice) : Tells (notify notice : SessionM δ Unit) :=
  fun _ => ⟨_, _, rfl⟩

theorem Tells.ite {c : Prop} [Decidable c] {action other : SessionM δ Unit} (h : Tells action)
    (h' : Tells other) : Tells (if c then action else other) := by
  split
  · exact h
  · exact h'

theorem tells_traceNotice (notice : Notice) : Tells (traceNotice notice : SessionM δ Unit) := by
  intro s
  obtain ⟨notices, run⟩ := traceNotice_apply notice s
  exact ⟨notices, _, run⟩

theorem tells_report (wanted : Bool) (progress : Progress) :
    Tells (report wanted progress : SessionM δ Unit) := by
  intro s
  cases wanted with
  | false => exact ⟨_, _, rfl⟩
  | true => exact ⟨_, _, rfl⟩

section

variable {κ : Kinship δ ε} {next : Unit → SessionM δ α} {next' : Unit → SessionM ε α}

theorem Twins.told {s : Session δ} {t : Session ε} (h : Twins κ s t) (notices : Array Notice)
    (progress : Array Progress) (notices' : Array Notice) (progress' : Array Progress) :
    Twins κ { s with journal.notices := notices, journal.progress := progress }
      { t with journal.notices := notices', journal.progress := progress' } :=
  ⟨h.device, h.patience, h.phase, h.timeout, h.crystal, h.heldBack, h.since⟩

theorem Tells.agree {action : SessionM δ Unit} {other : SessionM ε Unit} (h : Tells action)
    (h' : Tells other) : Agree (Twins κ) action other := by
  intro s t twins
  obtain ⟨notices, progress, run⟩ := h s
  obtain ⟨notices', progress', run'⟩ := h' t
  rw [run, run']
  exact ⟨rfl, twins.told ..⟩

theorem notify_agrees (notice : Notice) : Agree (Twins κ) (notify notice) (notify notice) :=
  (tells_notify notice).agree (tells_notify notice)

theorem traceNotice_agrees (notice : Notice) :
    Agree (Twins κ) (traceNotice notice) (traceNotice notice) :=
  (tells_traceNotice notice).agree (tells_traceNotice notice)

theorem report_agrees (wanted wanted' : Bool) (progress : Progress) :
    Agree (Twins κ) (report wanted progress) (report wanted' progress) :=
  (tells_report wanted progress).agree (tells_report wanted' progress)

/-- What one of two sessions tells makes no difference to what they do then. -/
theorem Tells.before {action : SessionM δ Unit} {other : SessionM ε α} (h : Tells action)
    (rest : Agree (Twins κ) (next ()) other) : Agree (Twins κ) (action >>= next) other := by
  intro s t twins
  obtain ⟨notices, progress, run⟩ := h s
  rw [bind_apply, run]
  exact rest _ t (twins.told notices progress t.journal.notices t.journal.progress)

theorem Tells.before' {action : SessionM δ α} {other : SessionM ε Unit} (h : Tells other)
    (rest : Agree (Twins κ) action (next' ())) : Agree (Twins κ) action (other >>= next') := by
  intro s t twins
  obtain ⟨notices, progress, run⟩ := h t
  rw [bind_apply, run]
  exact rest s _ (twins.told s.journal.notices s.journal.progress notices progress)

end

/-! ### Wrappers -/

section

variable {κ : Kinship δ ε} {action : SessionM δ α} {other : SessionM ε α}

/-- An action that only changes the failures of another one. -/
theorem agree_mapFailure {g : Failure → Failure} {wrapped : SessionM δ α}
    {wrapped' : SessionM ε α} (h : Agree (Twins κ) action other)
    (wraps : ∀ s, wrapped s = ((action s).1.mapError g, (action s).2))
    (wraps' : ∀ t, wrapped' t = ((other t).1.mapError g, (other t).2)) :
    Agree (Twins κ) wrapped wrapped' := by
  intro s t twins
  obtain ⟨same, related⟩ := h s t twins
  rw [wraps, wraps', same]
  exact ⟨rfl, related⟩

theorem during_agrees (kind : Wire.CommandKind) (h : Agree (Twins κ) action other) :
    Agree (Twins κ) (during kind action) (during kind other) := by
  refine agree_mapFailure (g := fun failure => failure.during kind) h (fun s => ?_) fun t => ?_
  · rw [during]
    rcases action s with ⟨_ | _, s'⟩ <;> rfl
  · rw [during]
    rcases other t with ⟨_ | _, t'⟩ <;> rfl

theorem withTimeout_agrees (timeout : Nat) (h : Agree (Twins κ) action other) :
    Agree (Twins κ) (withTimeout timeout action) (withTimeout timeout other) := by
  intro s t twins
  have inside : Twins κ { s with timeout := timeout } { t with timeout := timeout } :=
    ⟨twins.device, twins.patience, twins.phase, rfl, twins.crystal, twins.heldBack, twins.since⟩
  obtain ⟨same, after⟩ := h _ _ inside
  exact ⟨same, after.device, after.patience, after.phase, twins.timeout, after.crystal,
    after.heldBack, after.since⟩

theorem attempt_agrees (h : Agree (Twins κ) action other) :
    Agree (Twins κ) (attempt action) (attempt other) := by
  intro s t twins
  obtain ⟨same, after⟩ := h s t twins
  exact ⟨congrArg Except.ok same, after⟩

end

/-! ### Single steps -/

section

variable {κ : Kinship δ ε}

theorem takeHeldBack_agrees :
    Agree (Twins κ) (takeHeldBack : SessionM δ Bytes) (takeHeldBack : SessionM ε Bytes) := by
  intro s t h
  refine ⟨?_, h.device, h.patience, h.phase, h.timeout, h.crystal, rfl, h.since⟩
  rw [takeHeldBack, takeHeldBack, h.heldBack]

theorem holdBack_agrees (c : UInt8) :
    Agree (Twins κ) (holdBack c : SessionM δ Unit) (holdBack c : SessionM ε Unit) :=
  fun _ _ h => ⟨rfl, h.device, h.patience, h.phase, h.timeout, h.crystal, rfl, h.since⟩

theorem enter_agrees (phase : Phase) :
    Agree (Twins κ) (enter phase : SessionM δ Unit) (enter phase : SessionM ε Unit) :=
  fun _ _ h => ⟨rfl, h.device, h.patience, rfl, h.timeout, h.crystal, h.heldBack, h.since⟩

theorem ofOutcome_agrees (outcome : Except PortFault α) : Agree (Twins κ)
    (ofOutcome outcome : SessionM δ α) (ofOutcome outcome : SessionM ε α) := by
  cases outcome with
  | ok a => exact agree_pure a
  | error fault => exact agree_throw _

theorem ofExcept_agrees (result : Except Failure α) : Agree (Twins κ)
    (ofExcept result : SessionM δ α) (ofExcept result : SessionM ε α) := by
  cases result with
  | ok a => exact agree_pure a
  | error failure => exact agree_throw failure

/-- Twins that make the same call stay twins. -/
theorem Twins.call {s : Session δ} {t : Session ε} (h : Twins κ s t) {d : δ} {e : ε}
    (related : κ.device d e) (c : Call) :
    Twins κ { s with device := d, journal.calls := s.journal.calls.push c }
      { t with device := e, journal.calls := t.journal.calls.push c } := by
  refine ⟨related, h.patience, h.phase, h.timeout, h.crystal, h.heldBack, ?_⟩
  obtain ⟨cs, left, right⟩ := h.since
  have left' : s.journal.calls.toList = κ.before ++ cs := left
  have right' : t.journal.calls.toList = κ.before' ++ cs := right
  refine ⟨cs ++ [c], ?_, ?_⟩
  · simp [calls, left']
  · simp [calls, right']

variable [Transport δ] [Transport ε]

theorem callWrite_agrees (lasts : κ.Lasts) (b : Bytes) : Agree (Twins κ)
    (callWrite b : SessionM δ (Except PortFault Nat)) (callWrite b) := by
  intro s t h
  obtain ⟨same, related⟩ := lasts.alike.write h.device b
  rcases left : Transport.write s.device b with ⟨outcome, d⟩
  rcases right : Transport.write t.device b with ⟨outcome', e⟩
  rw [left, right] at same related
  obtain rfl : outcome = outcome' := same
  simp only [callWrite, left, right]
  exact ⟨trivial, h.call related _⟩

theorem callRead_agrees (lasts : κ.Lasts) (n : Nat) : Agree (Twins κ)
    (callRead n : SessionM δ (Except PortFault Bytes)) (callRead n) := by
  intro s t h
  obtain ⟨same, related⟩ := lasts.alike.read h.device n t.timeout
  rcases left : Transport.read s.device n t.timeout with ⟨outcome, d⟩
  rcases right : Transport.read t.device n t.timeout with ⟨outcome', e⟩
  rw [left, right] at same related
  obtain rfl : outcome = outcome' := same
  have called := h.call related (.read n t.timeout outcome)
  simp only [callRead, h.timeout, left, right] at called ⊢
  exact ⟨trivial, called⟩

theorem callClear_agrees (lasts : κ.Lasts) : Agree (Twins κ)
    (callClear : SessionM δ (Except PortFault Unit)) callClear := by
  intro s t h
  obtain ⟨same, related⟩ := lasts.alike.clear h.device
  rcases left : Transport.clear s.device with ⟨outcome, d⟩
  rcases right : Transport.clear t.device with ⟨outcome', e⟩
  rw [left, right] at same related
  obtain rfl : outcome = outcome' := same
  simp only [callClear, left, right]
  exact ⟨trivial, h.call related _⟩

end

end

end Session

end SerialIsp
