import SerialIsp.Proofs.Dialogue.Handshake

/-!
# The outcome of a handshake

What was received settles everything about a handshake: whether it succeeds, which stage it
blames when the device is at fault, whether the crystal frequency is remembered, and where the
next reply begins. It does so over any transport, also one that fails in the middle, since a
handshake that was broken off has received too little for any of that.

What the device has to send is said by lines: after the answer to the question mark, each turn
is an echo, which may be any line, and the line that is waited for.
-/

namespace SerialIsp

variable {δ : Type}

/-! ## What the device sends -/

/-- Any line, and the line with the given text behind it. -/
def EchoedLine (text input rest : Bytes) : Prop :=
  ∃ echo between, FirstLine echo input between ∧ FirstLine text between rest

/-- The answer to the question mark, and the first `OK`. -/
def FirstOk (input rest : Bytes) : Prop :=
  ∃ a, input = Session.syncReply ++ a ∧ EchoedLine okText a rest

/-- All up to the second `OK`, by which the crystal frequency is accepted. -/
def SecondOk (input rest : Bytes) : Prop := ∃ a, FirstOk input a ∧ EchoedLine okText a rest

/-- All that belongs to a handshake: behind the second `OK` any line, and the reply to a
    command, whatever its status. -/
def Agreed (input rest : Bytes) : Prop :=
  ∃ a b echo, SecondOk input a ∧ FirstLine echo a b ∧ StatusReply b rest

/-- As many bytes as in the answer to the question mark, but others. -/
def WrongSync (input : Bytes) : Prop :=
  ∃ reply rest, input = reply ++ rest ∧ reply.length = 14 ∧ reply ≠ Session.syncReply

/-- A line that fits in place of the first or of the second `OK`, but another one. -/
def WrongOk (input : Bytes) : Prop :=
  ∃ text a rest, (input = Session.syncReply ++ a ∨ FirstOk input a) ∧ EchoedLine text a rest ∧
    text.length ≤ 64 ∧ text ≠ okText

/-- What is written in a handshake, one call each. -/
def syncScript (crystal : UInt32) : List Bytes :=
  [Bytes.ascii "?", Bytes.ascii "Synchronized\r\n",
    Bytes.ascii (Text.decimal crystal.toNat) ++ [Bytes.cr, Bytes.lf], Bytes.ascii "A 0\r\n"]

/-! ## What the turns come to -/

namespace Dialogue

section

variable {c : Prop} [Decidable c] {failure : Failure} {input rest : Bytes}

theorem check_done {u : Unit} :
    ((if c then fail failure else pure () : Dialogue Unit) input).close = .done u rest ↔
      ¬ c ∧ input = rest := by
  split
  · next holds =>
    refine iff_of_false (fun ended => ?_) fun h => h.1 holds
    cases ended
  · next fails => simp [pure_apply, fails]

theorem check_failed {failure' : Failure} :
    ((if c then fail failure else pure () : Dialogue Unit) input).close =
      .failed failure' rest ↔ c ∧ failure = failure' ∧ input = rest := by
  split
  · next holds => simp [fail, holds]
  · next fails =>
    refine iff_of_false (fun ended => ?_) fun h => fails h.1
    cases ended

end

theorem hearSync_done {input rest : Bytes} {u : Unit} :
    (hearSync input).close = .done u rest ↔ input = Session.syncReply ++ rest := by
  simp only [hearSync, close_bind_done, take_done, check_done, ne_eq, Decidable.not_not]
  constructor
  · rintro ⟨reply, between, ⟨-, rfl⟩, rfl, rfl⟩
    rfl
  · rintro rfl
    exact ⟨Session.syncReply, rest, ⟨rfl, rfl⟩, rfl, rfl⟩

theorem hearSync_failed {input rest : Bytes} {failure : Failure} :
    (hearSync input).close = .failed failure rest ↔
      failure = .connecting (.handshake .syncSent) ∧ ∃ reply, input = reply ++ rest ∧
        reply.length = 14 ∧ reply ≠ Session.syncReply := by
  simp only [hearSync, close_bind_failed, take_done, check_failed]
  constructor
  · rintro (early | ⟨reply, between, ⟨long, rfl⟩, other, rfl, rfl⟩)
    · exact (take_not_failed early).elim
    · exact ⟨rfl, reply, rfl, long, other⟩
  · rintro ⟨rfl, reply, rfl, long, other⟩
    exact .inr ⟨reply, rest, ⟨long, rfl⟩, other, rfl, rfl⟩

theorem hearOk_done {input rest : Bytes} {u : Unit} :
    (hearOk input).close = .done u rest ↔ EchoedLine okText input rest := by
  simp only [hearOk, close_bind_done, lineRest_done, line_done, check_done, ne_eq,
    Decidable.not_not]
  constructor
  · rintro ⟨_, a, ⟨echo, echoed⟩, reply, b, ⟨text, first, -, rfl⟩, same, rfl⟩
    rw [lossy_eq_okReply] at same
    exact ⟨echo, a, echoed, same ▸ first⟩
  · rintro ⟨echo, a, echoed, first⟩
    exact ⟨(), a, ⟨echo, echoed⟩, _, rest, ⟨okText, first, by decide, rfl⟩,
      lossy_eq_okReply.mpr rfl, rfl⟩

/-- Where a turn blames the device, another line came in place of `OK`. -/
theorem hearOk_failed {input : Bytes} {phase : Session.Phase} :
    (∃ rest, (hearOk input).close = .failed (.connecting (.handshake phase)) rest) ↔
      phase = .syncAcked ∧ ∃ text rest, EchoedLine text input rest ∧ text.length ≤ 64 ∧
        text ≠ okText := by
  simp only [hearOk, close_bind_failed, lineRest_done, line_done, check_failed]
  constructor
  · rintro ⟨rest, early | ⟨_, a, ⟨echo, echoed⟩, early | ⟨reply, b, ⟨text, first, fits, rfl⟩,
      other, same, rfl⟩⟩⟩
    · exact (lineRest_not_failed _ _ _ early).elim
    · obtain ⟨_, -, -, -, overlong⟩ := line_failed.mp early
      cases overlong
    · cases same
      refine ⟨rfl, text, _, ⟨echo, a, echoed, first⟩, fits, fun ok => ?_⟩
      exact other (lossy_eq_okReply.mpr ok)
  · rintro ⟨rfl, text, rest, ⟨echo, a, echoed, first⟩, fits, other⟩
    have wrong : Text.Utf8.lossy text ≠ Session.okReply := fun same =>
      other (lossy_eq_okReply.mp same)
    exact ⟨rest, .inr ⟨(), a, ⟨echo, echoed⟩,
      .inr ⟨_, rest, ⟨text, first, fits, rfl⟩, wrong, rfl, rfl⟩⟩⟩

theorem hearSilence_done {input rest : Bytes} {u : Unit} :
    (hearSilence input).close = .done u rest ↔
      ∃ echo between, FirstLine echo input between ∧ StatusReply between rest := by
  simp only [hearSilence, close_bind_done, lineRest_done, ← status_done]
  constructor
  · rintro ⟨_, a, ⟨echo, echoed⟩, value, b, ended, closed⟩
    cases closed
    exact ⟨echo, a, echoed, value, ended⟩
  · rintro ⟨echo, a, echoed, value, ended⟩
    exact ⟨(), a, ⟨echo, echoed⟩, value, rest, ended, rfl⟩

theorem close_say_bind (b : Bytes) (q : Unit → Dialogue Unit) (input : Bytes) :
    ((say b >>= q) input).close = (q () input).close := by rw [bind_done (say_apply b input)]

/-- **What the exchange comes to** is what the device sent. -/
theorem meet_done {crystal : UInt32} {input rest : Bytes} {u : Unit} :
    (meet crystal input).close = .done u rest ↔ SecondOk input rest := by
  simp only [meet, close_say_bind, close_bind_done, hearSync_done, hearOk_done, exists_const]
  constructor
  · rintro ⟨a, synced, b, first, second⟩
    exact ⟨b, ⟨a, synced, first⟩, second⟩
  · rintro ⟨b, ⟨a, synced, first⟩, second⟩
    exact ⟨a, synced, b, first, second⟩

theorem handshake_done {crystal : UInt32} {input rest : Bytes} {u : Unit} :
    (handshake crystal input).close = .done u rest ↔ Agreed input rest := by
  simp only [handshake, close_say_bind, close_bind_done, meet_done, hearSilence_done,
    exists_const]
  constructor
  · rintro ⟨a, second, echo, b, echoed, reply⟩
    exact ⟨a, b, echo, second, echoed, reply⟩
  · rintro ⟨a, b, echo, second, echoed, reply⟩
    exact ⟨a, second, echo, b, echoed, reply⟩

/-- **Which stage is blamed** where the device goes off the script. -/
theorem handshake_failed {crystal : UInt32} {input : Bytes} {phase : Session.Phase} :
    (∃ rest, (handshake crystal input).close = .failed (.connecting (.handshake phase)) rest) ↔
      phase = .syncSent ∧ WrongSync input ∨ phase = .syncAcked ∧ WrongOk input := by
  simp only [handshake, meet, close_say_bind, close_bind_failed, close_bind_done, hearSync_done,
    hearOk_done, exists_const]
  constructor
  · rintro ⟨rest, (early | ⟨a, rfl, early | ⟨b, first, early⟩⟩) | ⟨_, -, late⟩⟩
    · obtain ⟨same, reply, rfl, long, other⟩ := hearSync_failed.mp early
      cases same
      exact .inl ⟨rfl, reply, rest, rfl, long, other⟩
    · obtain ⟨rfl, text, rest', line, fits, other⟩ := hearOk_failed.mp ⟨rest, early⟩
      exact .inr ⟨rfl, text, a, rest', .inl rfl, line, fits, other⟩
    · obtain ⟨rfl, text, rest', line, fits, other⟩ := hearOk_failed.mp ⟨rest, early⟩
      exact .inr ⟨rfl, text, b, rest', .inr ⟨a, rfl, first⟩, line, fits, other⟩
    · -- the last turn blames nobody
      exact (listening_hearSilence.garbled late).elim
  · rintro (⟨rfl, reply, rest, rfl, long, other⟩ | ⟨rfl, text, a, rest', place, line, fits, other⟩)
    · exact ⟨rest, .inl (.inl (hearSync_failed.mpr ⟨rfl, reply, rfl, long, other⟩))⟩
    · obtain ⟨rest, failed⟩ := hearOk_failed.mpr ⟨rfl, text, rest', line, fits, other⟩
      rcases place with rfl | ⟨b, rfl, first⟩
      · exact ⟨rest, .inl (.inr ⟨a, rfl, .inl failed⟩)⟩
      · exact ⟨rest, .inl (.inr ⟨b, rfl, .inr ⟨a, first, failed⟩⟩)⟩

/-! ## What is said -/

/-- Dialogues that say a fixed script: a part of it at least, and all of it where they come to
    their end. -/
def Recites (p : Dialogue Unit) (script : List Bytes) : Prop :=
  ∀ input, (p input).said <+: script ∧
    ∀ u rest, (p input).close = .done u rest → (p input).said = script

theorem Recites.bind {p : Dialogue Unit} {next : Unit → Dialogue Unit} {script later : List Bytes}
    (first : p.Recites script) (second : ∀ u, (next u).Recites later) :
    Recites (p >>= next) (script ++ later) := by
  intro input
  obtain ⟨early, all⟩ := first input
  rw [bind_apply, goOn]
  cases close : (p input).close with
  | done u between =>
    obtain ⟨early', all'⟩ := second u between
    rw [all u between close]
    exact ⟨(List.prefix_append_right_inj _).mpr early', fun v rest ended =>
      congrArg (script ++ ·) (all' v rest ended)⟩
  | failed failure between =>
    refine ⟨early.trans (List.prefix_append ..), fun v rest ended => ?_⟩
    cases ended
  | waiting =>
    refine ⟨early.trans (List.prefix_append ..), fun v rest ended => ?_⟩
    cases ended

theorem recites_say (b : Bytes) : (say b).Recites [b] :=
  fun _ => ⟨List.prefix_refl _, fun _ _ _ => rfl⟩

theorem recites_of_mute {p : Dialogue Unit} (mute : ∀ input, (p input).said = []) :
    p.Recites [] := fun input => ⟨mute input ▸ List.prefix_refl _, fun _ _ _ => mute input⟩

/-- **What is said** in a handshake is its script. -/
theorem recites_handshake (crystal : UInt32) :
    (handshake crystal).Recites (syncScript crystal) := by
  have echoOff : (Wire.Command.setEcho false).line = Bytes.ascii "A 0\r\n" := by decide +kernel
  have sync : hearSync.Recites [] := recites_of_mute mute_hearSync
  have ok : hearOk.Recites [] := recites_of_mute mute_hearOk
  have silence : hearSilence.Recites [] := recites_of_mute listening_hearSilence.mute
  have agreed : (meet crystal).Recites
      [Session.syncRequest, Session.syncReply, Session.crystalLine crystal] :=
    (recites_say _).bind fun _ => sync.bind fun _ =>
      (recites_say _).bind fun _ => ok.bind fun _ => (recites_say _).bind fun _ => ok
  have last : Recites (do say (Wire.Command.setEcho false).line; hearSilence)
      [Bytes.ascii "A 0\r\n"] := by
    rw [echoOff]
    exact (recites_say _).bind fun _ => silence
  exact agreed.bind fun _ => last

end Dialogue

namespace Session

variable [Transport δ]

theorem phase_of_handshake {crystal : UInt32} {s s' : Session δ}
    (run : handshake crystal s = (.ok (), s')) : s'.phase = .ready := by
  rw [handshake_eq] at run
  simp only [silence, ← bind_assoc] at run
  rw [bind_apply] at run
  split at run
  · cases run
    rfl
  · cases run

/-- What becomes of the exchange: the phase tells whether it succeeded, and otherwise things
    stay as it left them. -/
theorem synchronize_apply (crystal : UInt32) (quiet : Bool) (s : Session δ) :
    let ended := handshake crystal { s with phase := .unsynced, heldBack := none }
    ∃ s', synchronize crystal quiet s = (ended.1, s') ∧ calls s' = calls ended.2 ∧
      held s' = held ended.2 ∧ s'.crystal = ended.2.crystal ∧
      (ended.1 = .ok () → s'.phase = .ready) ∧ (ended.1 ≠ .ok () → s'.phase = .syncFailed) := by
  intro ended
  simp only [synchronize, bind_apply, modify_apply, attempt]
  rcases run : handshake crystal { s with phase := .unsynced, heldBack := none } with
    ⟨failure | _, s'⟩
  · have same : ended = (.error failure, s') := run
    rw [same]
    refine ⟨_, rfl, rfl, rfl, rfl, fun ok => ?_, fun _ => rfl⟩
    cases ok
  · have same : ended = (.ok (), s') := run
    rw [same]
    have last : s'.phase = .ready := phase_of_handshake run
    exact ⟨_, rfl, rfl, rfl, rfl, fun _ => last, fun h => absurd rfl h⟩

theorem sent_of_handshake {crystal : UInt32} {s : Session δ} {cs : List Call}
    (grown : calls (handshake crystal s).2 = calls s ++ cs) : sent cs <+: syncScript crystal := by
  obtain ⟨ds, grown', -, heeded⟩ := handshake_heeds crystal s
  obtain rfl := List.append_cancel_left (grown'.symm.trans grown)
  exact (sent_prefix_said heeded.ending).trans (Dialogue.recites_handshake crystal _).1

/-- The crystal frequency is remembered when the second `OK` was received, and only then. -/
theorem crystal_of_handshake {crystal : UInt32} {s : Session δ} {cs : List Call}
    (grown : calls (handshake crystal s).2 = calls s ++ cs) :
    (∃ rest, SecondOk (held s ++ received cs) rest) ∧
        (handshake crystal s).2.crystal = some crystal ∨
      (¬ ∃ rest, SecondOk (held s ++ received cs) rest) ∧
        (handshake crystal s).2.crystal = s.crystal := by
  obtain ⟨ds, grown', -, heeded⟩ := meet_heeds crystal s
  rcases run : handshake crystal s with ⟨result, s'⟩
  rw [run] at grown
  rw [handshake_eq, bind_apply] at run
  rcases agreed : meet crystal s with ⟨failure | _, t⟩
  · -- the exchange ended before the second `OK`
    rw [agreed] at run grown' heeded
    cases run
    obtain rfl := List.append_cancel_left (grown'.symm.trans grown)
    refine .inr ⟨?_, (frame_crystal.meet (fun _ _ => rfl) crystal).of_run agreed⟩
    rintro ⟨rest, second⟩
    have agreed : Except.error failure = .ok () :=
      heeded.ok_iff.mpr ⟨rest, Dialogue.meet_done.mpr second⟩
    cases agreed
  · rw [agreed] at run grown' heeded
    have settled : Settled (Dialogue.meet crystal) (held s) ds (.ok ()) (held t) :=
      .of_unbroken heeded.ending nofun
    let t' : Session δ := { t with phase := .crystalAcked, crystal := some crystal }
    have behind : silence t' = (result, s') := run
    obtain ⟨es, later, -, -⟩ := silence_heeds t'
    rw [behind] at later
    obtain rfl : cs = ds ++ es := by
      refine List.append_cancel_left (grown.symm.trans (later.trans ?_))
      rw [← List.append_assoc, ← grown']
      rfl
    refine .inl ⟨⟨held t ++ received es, ?_⟩, (frame_crystal.silence fun _ _ => rfl).of_run behind⟩
    have ended := congrArg Course.close (settled.course (received es))
    rw [received_append, ← List.append_assoc]
    exact Dialogue.meet_done.mp ended

/-- **The outcome of a handshake**, by the calls that were made. -/
structure SyncOutcome (crystal : UInt32) (s : Session δ) (cs : List Call)
    (result : Except Failure Unit) (s' : Session δ) : Prop where
  /-- What is written is the script, as far as it goes, with one call for each line. -/
  script : sent cs <+: syncScript crystal
  /-- It succeeds exactly when all of that was taken, and the device sent what belongs to it. -/
  ok : result = .ok () ↔ sent cs = syncScript crystal ∧
    (∀ b outcome, Call.write b outcome ∈ cs → outcome = .ok b.length) ∧
    ∃ rest, Agreed (received cs) rest
  /-- Nothing more was read then, but for a byte that is held back. -/
  consumed : result = .ok () → Agreed (received cs) (held s')
  ready : result = .ok () → s'.phase = .ready
  failed : result ≠ .ok () → s'.phase = .syncFailed
  wrongSync : result = .error (.connecting (.handshake .syncSent)) ↔ WrongSync (received cs)
  wrongOk : result = .error (.connecting (.handshake .syncAcked)) ↔ WrongOk (received cs)
  accepted : (∃ rest, SecondOk (received cs) rest) → s'.crystal = some crystal
  unchanged : (¬ ∃ rest, SecondOk (received cs) rest) → s'.crystal = s.crystal

/-- **What was received settles the outcome of a handshake**, over any transport and from any
    session. -/
theorem synchronize_outcome (crystal : UInt32) (quiet : Bool) (s : Session δ) :
    ∃ cs, calls (synchronize crystal quiet s).2 = calls s ++ cs ∧
      SyncOutcome crystal s cs (synchronize crystal quiet s).1
        (synchronize crystal quiet s).2 := by
  let s₀ : Session δ := { s with phase := .unsynced, heldBack := none }
  obtain ⟨s', whole, sameCalls, sameHeld, sameCrystal, ready, failed⟩ :=
    synchronize_apply crystal quiet s
  obtain ⟨cs, grown, -, heeded⟩ := handshake_heeds crystal s₀
  have remembered := crystal_of_handshake grown
  obtain ⟨-, all⟩ := Dialogue.recites_handshake crystal (received cs)
  have agreed : (handshake crystal s₀).1 = .ok () ↔ ∃ rest, Agreed (received cs) rest :=
    heeded.ok_iff.trans (exists_congr fun _ => Dialogue.handshake_done)
  have blamed (phase : Phase) :
      (handshake crystal s₀).1 = .error (.connecting (.handshake phase)) ↔
        phase = .syncSent ∧ WrongSync (received cs) ∨ phase = .syncAcked ∧ WrongOk (received cs) :=
    (heeded.error_iff id).trans Dialogue.handshake_failed
  -- a success was not broken off, so that all calls were full, and said is what was due
  have settled (ok : (handshake crystal s₀).1 = .ok ()) :
      Settled (Dialogue.handshake crystal) [] cs (.ok ()) (held s') := by
    rw [sameHeld, ← ok]
    exact .of_unbroken heeded.ending (by rw [ok]; exact nofun)
  rw [whole]
  refine ⟨cs, sameCalls.trans grown, {
    script := sent_of_handshake grown
    ok := ⟨fun ok => ⟨?_, ?_, agreed.mp ok⟩, fun h => agreed.mpr h.2.2⟩
    consumed := fun ok => ?_
    ready := ready
    failed := failed
    wrongSync := by simpa using blamed .syncSent
    wrongOk := by simpa using blamed .syncAcked
    accepted := fun second => ?_
    unchanged := fun none => ?_ }⟩
  · have ended := (settled ok).ended
    exact (congrArg Course.said ended).symm.trans (all () _ (congrArg Course.close ended))
  · intro b outcome mem
    have full := (settled ok).full _ mem
    cases outcome with
    | ok taken => exact congrArg Except.ok full
    | error fault => exact full.elim
  · exact Dialogue.handshake_done.mp (congrArg Course.close (settled ok).ended)
  · rcases remembered with ⟨-, same⟩ | ⟨none, -⟩
    · exact sameCrystal.trans same
    · exact absurd second none
  · rcases remembered with ⟨second, -⟩ | ⟨-, same⟩
    · exact absurd second none
    · exact sameCrystal.trans same

end Session

end SerialIsp
