import SerialIsp.Proofs.Dialogue.Lines
import SerialIsp.Proofs.Frames
import SerialIsp.Proofs.Transfer.Sending

/-!
# The handshake as a dialogue

The handshake takes turns: each of its four writes is answered by bytes that the write before
it did not wait for, except for one that may be held back. So a handshake that the transport
breaks off has not heard an answer either, whichever way it was broken off, and what was heard
alone settles how it ended. An action with this property *heeds* its dialogue (`HeedsAt`).

The dialogue is put together from four turns, of which the two in the middle are the same but
for what is said. What each comes to is said by lines.
-/

namespace SerialIsp

variable {σ α β δ : Type}

/-! ## Heeding -/

/-- A run came to the end of the dialogue, or the transport broke it off while the dialogue was
    waiting. -/
inductive Heeded (p : Dialogue α) (before : Bytes) (cs : List Call) (r : Except Failure α)
    (after : Bytes) : Prop
  | settled (settled : Settled p before cs r after)
  | broken (broken : Broken p before cs r)
      (waits : (p (before ++ received cs)).close = .waiting)

namespace Heeded

variable {p : Dialogue α} {before between after : Bytes} {cs ds : List Call}
  {r : Except Failure α}

theorem ending (h : Heeded p before cs r after) :
    Settled p before cs r after ∨ Broken p before cs r := by
  cases h with
  | settled settled => exact .inl settled
  | broken broken _ => exact .inr broken

/-- What was heard settles the result: whether it is a success, -/
theorem ok_iff (h : Heeded p before cs r after) {a : α} :
    r = .ok a ↔ ∃ rest, (p (before ++ received cs)).close = .done a rest := by
  cases h with
  | settled settled =>
    rw [settled.ended]
    cases r <;> simp [Close.ofResult]
  | broken broken waits =>
    obtain ⟨failure, rfl, -⟩ := broken.result
    rw [waits]
    simp

/-- and whether it is a failure that the device brought about. -/
theorem error_iff (h : Heeded p before cs r after) {failure : Failure}
    (own : ¬ failure.isBreak) :
    r = .error failure ↔ ∃ rest, (p (before ++ received cs)).close = .failed failure rest := by
  cases h with
  | settled settled =>
    rw [settled.ended]
    cases r <;> simp [Close.ofResult]
  | broken broken waits =>
    obtain ⟨f, rfl, isBreak⟩ := broken.result
    rw [waits]
    constructor
    · intro same
      cases same
      exact absurd isBreak own
    · rintro ⟨_, ended⟩
      cases ended

theorem first {failure : Failure} (h : Heeded p before cs (.error failure) after)
    (next : α → Dialogue β) : Heeded (p >>= next) before cs (.error failure) after := by
  cases h with
  | settled settled => exact .settled (settled.first next)
  | broken broken waits => exact .broken (broken.first next) (by rw [Dialogue.bind_waiting waits])

theorem bind {next : α → Dialogue β} {a : α} {r : Except Failure β}
    (first : Settled p before cs (.ok a) between) (second : Heeded (next a) between ds r after) :
    Heeded (p >>= next) before (cs ++ ds) r after := by
  cases second with
  | settled settled => exact .settled (first.bind settled)
  | broken broken waits =>
    refine .broken (.bind first broken) ?_
    rw [received_append, ← List.append_assoc, Dialogue.bind_done (first.course (received ds))]
    exact waits

end Heeded

section

variable [OnLine σ]

/-- From this state, each run of the action carries out the dialogue and heeds it. -/
def HeedsAt (action : ExceptT Failure (StateM σ) α) (p : Dialogue α) (s : σ) : Prop :=
  ∃ cs, calls (action s).2 = calls s ++ cs ∧ Lawful p (held s) cs ∧
    Heeded p (held s) cs (action s).1 (held (action s).2)

/-- What only listens is broken off by a read. -/
theorem FollowsAt.heeds {action : ExceptT Failure (StateM σ) α} {p : Dialogue α} {s : σ}
    (h : FollowsAt action p s) (mute : ∀ input, (p input).said = []) : HeedsAt action p s := by
  obtain ⟨cs, grown, law, settled | broken⟩ := h
  · exact ⟨cs, grown, law, .settled settled⟩
  · refine ⟨cs, grown, law, .broken broken ?_⟩
    rcases broken.waits with ⟨pre, b, o, rfl⟩ | waits
    · have said := broken.said
      rw [mute, List.prefix_nil, sent_append, sent_write] at said
      exact absurd said (by simp)
    · rw [waits]

theorem HeedsAt.bind {action : ExceptT Failure (StateM σ) α} {p : Dialogue α}
    {next : α → ExceptT Failure (StateM σ) β} {q : α → Dialogue β} {s : σ}
    (first : HeedsAt action p s)
    (second : ∀ a s', action s = (.ok a, s') → HeedsAt (next a) (q a) s') :
    HeedsAt (action >>= next) (p >>= q) s := by
  obtain ⟨cs, grown, law, heeded⟩ := first
  rcases run : action s with ⟨failure | a, s'⟩
  · -- the first part failed, and the sequence with it
    rw [run] at grown heeded
    refine ⟨cs, by rw [run_bind, run]; exact grown, law.first q, ?_⟩
    rw [run_bind, run]
    exact heeded.first q
  · rw [run] at grown heeded
    have settled : Settled p (held s) cs (.ok a) (held s') := .of_unbroken heeded.ending nofun
    obtain ⟨ds, grown', law', heeded'⟩ := second a s' run
    refine ⟨cs ++ ds, ?_, law.bind settled law', ?_⟩
    · rw [run_bind, run, ← List.append_assoc, ← grown]
      exact grown'
    · rw [run_bind, run]
      exact .bind settled heeded'

theorem HeedsAt.after {action : ExceptT Failure (StateM σ) Unit} {p : Dialogue α}
    {next : Unit → ExceptT Failure (StateM σ) α} {s s' : σ} (run : action s = (.ok (), s'))
    (sameCalls : calls s' = calls s) (sameHeld : held s' = held s)
    (h : HeedsAt (next ()) p s') : HeedsAt (action >>= next) p s := by
  obtain ⟨cs, grown, law, heeded⟩ := h
  refine ⟨cs, ?_, by rwa [← sameHeld], ?_⟩
  · rw [run_bind, run, ← sameCalls]
    exact grown
  · rw [run_bind, run, ← sameHeld]
    exact heeded

end

/-! ## The turns -/

namespace Dialogue

/-- Waits for the answer to the question mark. -/
def hearSync : Dialogue Unit := do
  let reply ← take Session.syncReply.length
  if reply ≠ Session.syncReply then fail (.connecting (.handshake .syncSent))

/-- Waits for an echo, and for `OK` on the line behind it. -/
def hearOk : Dialogue Unit := do
  lineRest
  let reply ← line
  if reply ≠ Session.okReply then fail (.connecting (.handshake .syncAcked))

/-- Waits for the last echo, and for a status. -/
def hearSilence : Dialogue Unit := do
  lineRest
  let _ ← status

/-- The exchange up to the second `OK`. -/
def meet (crystal : UInt32) : Dialogue Unit := do
  say Session.syncRequest
  hearSync
  say Session.syncReply
  hearOk
  say (Session.crystalLine crystal)
  hearOk

/-- The whole exchange. -/
def handshake (crystal : UInt32) : Dialogue Unit := do
  meet crystal
  say (Wire.Command.setEcho false).line
  hearSilence

theorem mute_hearSync : ∀ input, (hearSync input).said = [] :=
  mute_bind (listening_take _).mute fun reply input => by split <;> rfl

theorem mute_hearOk : ∀ input, (hearOk input).said = [] :=
  mute_bind listening_lineRest.mute fun _ => mute_bind listening_line.mute fun reply input => by
    split <;> rfl

theorem listening_hearSilence : Listening hearSilence :=
  listening_lineRest.bind fun _ => listening_status.bind fun _ => .pure ()

/-! What may be held back answers no turn. -/

theorem hearSync_waits {input : Bytes} (short : input.length ≤ 1) :
    (hearSync input).close = .waiting := by
  have long : Session.syncReply.length = 14 := by decide
  rw [hearSync, bind_waiting (by rw [take_of_lt (by omega)])]

/-- A byte ends an echo at most, and what is waited for behind the echo is still to come. -/
theorem lineRest_bind_waits {q : Unit → Dialogue α} (waits : (q () []).close = .waiting)
    {input : Bytes} (short : input.length ≤ 1) : ((lineRest >>= q) input).close = .waiting := by
  rcases input with _ | ⟨c, _ | ⟨d, input⟩⟩
  · rfl
  · by_cases lf : c = Bytes.lf
    · have ended : lineRest [c] = ⟨[], .done () []⟩ := by simp [lineRest, lf]
      rw [bind_done ended, waits]
    · have waiting : lineRest [c] = ⟨[], .waiting⟩ := by simp [lineRest, lf, lineEnd]
      rw [bind_waiting (by rw [waiting])]
  · simp at short

theorem hearOk_waits {input : Bytes} (short : input.length ≤ 1) :
    (hearOk input).close = .waiting := lineRest_bind_waits rfl short

theorem hearSilence_waits {input : Bytes} (short : input.length ≤ 1) :
    (hearSilence input).close = .waiting := lineRest_bind_waits rfl short

end Dialogue

namespace Session

variable [Transport δ]

/-- **A turn** is broken off before its answer: what is held back answers nothing yet. -/
theorem writeBytes_heeds {b : Bytes} {next : Unit → SessionM δ α} {q : Unit → Dialogue α}
    {s : Session δ} (waits : (q () (held s)).close = .waiting)
    (second : ∀ s', writeBytes b s = (.ok (), s') → HeedsAt (next ()) (q ()) s') :
    HeedsAt (writeBytes b >>= next) (Dialogue.say b >>= q) s := by
  rcases run : writeBytes b s with ⟨failure | _, s'⟩
  · -- the one call there is was not taken in full, and nothing was heard
    obtain ⟨notices, apply⟩ := writeBytes_apply b s
    rw [run] at apply
    obtain ⟨failed, rfl⟩ := Prod.mk.inj apply
    have whole : (Dialogue.say b >>= q) (held s) = _ :=
      Dialogue.bind_done (Dialogue.say_apply b (held s))
    have due : [b] <+: ((Dialogue.say b >>= q) (held s)).said := by
      rw [whole]
      exact List.prefix_append ..
    refine ⟨[.write b (Transport.write s.device b).1], ?_, .write due, .broken ?_ ?_⟩
    · rw [run_bind, run]
      exact Array.toList_push
    · obtain ⟨short, isBreak⟩ := short_of_writeResult failed.symm
      rw [run_bind, run]
      exact .of_write short isBreak due
    · rw [received_write, List.append_nil, whole]
      exact waits
  · obtain ⟨cs, grown, law, ending⟩ := writeBytes_follows b s
    refine HeedsAt.bind ⟨cs, grown, law, .settled ?_⟩ fun _ s'' run' => second s'' run'
    exact .of_unbroken ending (by rw [run]; exact nofun)

/-! ## The exchange in turns

The turns of the dialogues, as stages of the exchange. -/

def awaitSync : SessionM δ Unit := do
  if (← readExact syncReply.length) ≠ syncReply then failHandshake

def awaitOk : SessionM δ Unit := do
  drainLine
  expectOk

def awaitSilence : SessionM δ Unit := do
  drainLine
  notify (.echoDisabled (← readStatus))

def meet (crystal : UInt32) : SessionM δ Unit := do
  writeBytes syncRequest
  enter .syncSent
  awaitSync
  writeBytes syncReply
  enter .syncAcked
  awaitOk
  writeBytes (crystalLine crystal)
  awaitOk

def silence : SessionM δ Unit := do
  writeBytes (Wire.Command.setEcho false).line
  awaitSilence
  enter .echoOff
  enter .ready

theorem handshake_eq (crystal : UInt32) : (handshake crystal : SessionM δ Unit) = (do
    meet crystal
    enter .crystalAcked
    modify fun s => { s with crystal := some crystal }
    silence) := by
  simp only [handshake, meet, awaitSync, awaitOk, awaitSilence, silence, bind_assoc]
  refine bind_congr fun _ => bind_congr fun _ => bind_congr fun reply => ?_
  split
  · rfl
  · rw [pure_bind]

/-! What the exchange leaves alone. -/

namespace QuietSteps

variable {r : Session δ → Session δ → Prop} (steps : QuietSteps r)

include steps

theorem failHandshake : Stays r (Session.failHandshake : SessionM δ α) :=
  steps.get fun _ => steps.throw _

theorem awaitSync : Stays r (Session.awaitSync : SessionM δ Unit) :=
  steps.bind (steps.readExact _) fun _ =>
    .ite (fun _ => steps.failHandshake) fun _ => steps.pure ()

theorem awaitOk : Stays r (Session.awaitOk : SessionM δ Unit) := by
  refine steps.bind steps.drainLine fun _ => steps.bind steps.readLine fun reply => ?_
  exact .ite (fun _ => steps.bind (steps.notify _) fun _ => steps.failHandshake)
    fun _ => steps.pure ()

theorem awaitSilence : Stays r (Session.awaitSilence : SessionM δ Unit) :=
  steps.bind steps.drainLine fun _ => steps.bind steps.readStatus fun _ => steps.notify _

section

variable (entered : ∀ s phase, r s { s with phase := phase })

include entered

theorem meet (crystal : UInt32) : Stays r (Session.meet crystal : SessionM δ Unit) := by
  refine steps.bind (steps.writeBytes _) fun _ => steps.bind (fun s => entered s _) fun _ => ?_
  refine steps.bind steps.awaitSync fun _ => steps.bind (steps.writeBytes _) fun _ => ?_
  refine steps.bind (fun s => entered s _) fun _ => steps.bind steps.awaitOk fun _ => ?_
  exact steps.bind (steps.writeBytes _) fun _ => steps.awaitOk

theorem silence : Stays r (Session.silence : SessionM δ Unit) := by
  refine steps.bind (steps.writeBytes _) fun _ => steps.bind steps.awaitSilence fun _ => ?_
  exact steps.bind (fun s => entered s _) fun _ s => entered s _

theorem synchronize (remembered : ∀ s crystal, r s { s with crystal := some crystal })
    (crystal : UInt32) (quiet : Bool) :
    Stays r (Session.synchronize crystal quiet : SessionM δ Unit) := by
  have opened : Stays r (modify fun s => { s with phase := .unsynced, heldBack := none } :
      SessionM δ Unit) := fun s => steps.trans (entered s .unsynced) (steps.took _)
  have exchange : Stays r (Session.handshake crystal : SessionM δ Unit) := by
    rw [handshake_eq]
    refine steps.bind (steps.meet entered crystal) fun _ => ?_
    refine steps.bind (fun s => entered s _) fun _ => ?_
    exact steps.bind (fun s => remembered s crystal) fun _ => steps.silence entered
  refine steps.bind opened fun _ => steps.bind (stays_attempt exchange) fun result => ?_
  cases result with
  | ok _ => exact steps.notify _
  | error failure =>
    refine steps.get fun _ => steps.bind (fun s => entered s _) fun _ => ?_
    exact steps.bind (steps.notify _) fun _ => steps.throw _

end

end QuietSteps

/-! ## Each turn heeds its dialogue -/

omit [Transport δ] in
/-- A failed handshake tells the phase it has come to. -/
theorem failHandshake_follows {s : Session δ} {phase : Phase} (here : s.phase = phase) :
    FollowsAt (failHandshake : SessionM δ α)
      (Dialogue.fail (.connecting (.handshake phase))) s :=
  .of_quiet rfl fun more => by rw [← here]; rfl

theorem awaitSync_heeds {s : Session δ} (here : s.phase = .syncSent) :
    HeedsAt (awaitSync : SessionM δ Unit) Dialogue.hearSync s := by
  refine FollowsAt.heeds ?_ Dialogue.mute_hearSync
  refine (readExact_follows syncReply.length s).bind fun reply s' run => ?_
  have still : s'.phase = .syncSent := (frame_phase.readExact _).of_run run |>.trans here
  split
  · exact failHandshake_follows still
  · exact follows_pure () s'

theorem expectOk_follows {s : Session δ} (here : s.phase = .syncAcked) :
    FollowsAt (expectOk : SessionM δ Unit) (do
      let reply ← Dialogue.line
      if reply ≠ okReply then Dialogue.fail (.connecting (.handshake .syncAcked))) s := by
  refine (readLine_follows s).bind fun reply s' run => ?_
  have still : s'.phase = .syncAcked := frame_phase.readLine.of_run run |>.trans here
  split
  · exact .after rfl rfl rfl (failHandshake_follows still)
  · exact follows_pure () s'

theorem awaitOk_heeds {s : Session δ} (here : s.phase = .syncAcked) :
    HeedsAt (awaitOk : SessionM δ Unit) Dialogue.hearOk s := by
  refine FollowsAt.heeds ?_ Dialogue.mute_hearOk
  exact (drainLine_follows s).bind fun _ s' run =>
    expectOk_follows (frame_phase.drainLine.of_run run |>.trans here)

theorem awaitSilence_heeds (s : Session δ) :
    HeedsAt (awaitSilence : SessionM δ Unit) Dialogue.hearSilence s := by
  refine FollowsAt.heeds ?_ Dialogue.listening_hearSilence.mute
  refine (drainLine_follows.bind fun _ => readStatus_follows.bind fun status => ?_) s
  rw [← bind_pure (notify _)]
  exact (silent_notify _).then (follows_pure ())

theorem meet_heeds (crystal : UInt32) (s : Session δ) :
    HeedsAt (meet crystal : SessionM δ Unit) (Dialogue.meet crystal) s := by
  have waits {q : Dialogue Unit} {r : Unit → Dialogue Unit} (s : Session δ)
      (h : (q (held s)).close = .waiting) : ((q >>= r) (held s)).close = .waiting :=
    congrArg Course.close (Dialogue.bind_waiting h)
  refine writeBytes_heeds (waits s (Dialogue.hearSync_waits (length_held s))) fun s₁ _ =>
    .after rfl rfl rfl (.bind (awaitSync_heeds rfl) fun _ s₂ _ => ?_)
  refine writeBytes_heeds (waits s₂ (Dialogue.hearOk_waits (length_held s₂))) fun s₃ _ =>
    .after rfl rfl rfl (.bind (awaitOk_heeds rfl) fun _ s₄ agreed => ?_)
  refine writeBytes_heeds (Dialogue.hearOk_waits (length_held s₄)) fun s₅ written => ?_
  have acked : s₄.phase = .syncAcked := frame_phase.awaitOk.of_run agreed
  exact awaitOk_heeds ((frame_phase.writeBytes _).of_run written |>.trans acked)

theorem silence_heeds (s : Session δ) : HeedsAt (silence : SessionM δ Unit) (do
    Dialogue.say (Wire.Command.setEcho false).line
    Dialogue.hearSilence) s := by
  refine writeBytes_heeds (Dialogue.hearSilence_waits (length_held s)) fun s₁ _ => ?_
  rw [← Dialogue.bind_pure Dialogue.hearSilence]
  refine .bind (awaitSilence_heeds s₁) fun _ s₂ _ => FollowsAt.heeds ?_ fun _ => rfl
  exact .of_quiet rfl fun more => rfl

/-- **The handshake heeds its dialogue.** -/
theorem handshake_heeds (crystal : UInt32) (s : Session δ) :
    HeedsAt (handshake crystal : SessionM δ Unit) (Dialogue.handshake crystal) s := by
  rw [handshake_eq]
  exact .bind (meet_heeds crystal s) fun _ s' _ =>
    .after rfl rfl rfl (.after rfl rfl rfl (silence_heeds _))

end Session
end SerialIsp
