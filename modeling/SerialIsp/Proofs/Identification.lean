import SerialIsp.Proofs.Frames.Operations
import SerialIsp.Proofs.Handshake
import SerialIsp.Proofs.Plans
import SerialIsp.Proofs.Twins.Session
import SerialIsp.Session.Scripted

/-!
# Identifying a device

Connecting asks a device for its part's identifier, and no question before that one counts. A
handshake that fails leaves things in any state; so the input is dropped, one command is given
up, and the input is dropped again. From there on two sessions are twins, whatever the device
had sent before, provided that their transports answer alike from then on.

How often the device is asked, and when its input is dropped, is told by what connecting does
to the line besides reading from it (`acts`).
-/

namespace SerialIsp

open Wire

/-! ## What is done to the line

Where no input is dropped, that is what was written (`acts_of_undropped`). -/

/-- What a call does to the line, other than to read from it. -/
inductive Act
  | write (b : Bytes)
  | drop
  deriving DecidableEq

def Call.acts : Call → List Act
  | .write b _ => [.write b]
  | .read .. => []
  | .clear _ => [.drop]

def acts (cs : List Call) : List Act := cs.flatMap Call.acts

@[simp] theorem acts_nil : acts [] = [] := rfl

@[simp] theorem acts_append (cs ds : List Call) : acts (cs ++ ds) = acts cs ++ acts ds :=
  List.flatMap_append

@[simp] theorem acts_write (b : Bytes) (o : Except PortFault Nat) (cs : List Call) :
    acts (.write b o :: cs) = .write b :: acts cs := rfl

@[simp] theorem acts_clear (o : Except PortFault Unit) (cs : List Call) :
    acts (.clear o :: cs) = .drop :: acts cs := rfl

theorem acts_of_undropped {cs : List Call} (kept : ∀ outcome, Call.clear outcome ∉ cs) :
    acts cs = (sent cs).map .write := by
  induction cs with
  | nil => rfl
  | cons c cs ih =>
    have rest := ih fun outcome mem => kept outcome (List.mem_cons_of_mem c mem)
    cases c with
    | write b o => exact congrArg (Act.write b :: ·) rest
    | read n timeout o => exact rest
    | clear outcome => exact absurd List.mem_cons_self (kept outcome)

theorem readPartId_not_mem_syncScript (crystal : UInt32) :
    Command.readPartId.line ∉ syncScript crystal := by
  have line : Command.readPartId.line = Bytes.ascii "J\r\n" := by decide +kernel
  rw [line]
  intro mem
  simp only [syncScript, List.mem_cons, List.not_mem_nil, or_false] at mem
  rcases mem with same | same | same | same
  · revert same; decide +kernel
  · revert same; decide +kernel
  · -- the crystal frequency opens with a digit
    have other : ∀ c ∈ Text.digits 10 crystal.toNat, 'J'.toNat.toUInt8 ≠ c.toNat.toUInt8 :=
      Text.forall_mem_digits (by decide) _
    cases chars : Text.digits 10 crystal.toNat with
    | nil => exact Text.digits_ne_nil crystal.toNat chars
    | cons c cs =>
      have first : 'J'.toNat.toUInt8 = c.toNat.toUInt8 := by
        simpa [Bytes.ascii, Text.toList_decimal, chars] using congrArg List.head? same
      exact other c (chars ▸ List.mem_cons_self) first
  · revert same; decide +kernel

namespace Part.Source

theorem id_of_firstMatch {id : UInt64} {records : List (Except Failure Part)} {part : Part}
    (found : firstMatch id records = .ok part) : part.id = id := by
  induction records with
  | nil => cases found
  | cons record records ih =>
    cases record with
    | error failure => cases found
    | ok candidate =>
      rw [firstMatch] at found
      split at found
      · next same =>
        cases found
        exact same
      · exact ih found

theorem of_findBy {read : Text.LiteralReader} {source : Part.Source} {fs : Files} {id : UInt64}
    {part : Part} (found : source.findBy read fs id = .ok part) :
    part.id = id ∧ part.checkGeometry = .ok () := by
  obtain ⟨candidate, looked, found⟩ := exists_of_bind_eq_ok found
  obtain ⟨⟨⟩, possible, found⟩ := exists_of_bind_eq_ok found
  cases found
  obtain ⟨records, -, first⟩ := exists_of_bind_eq_ok looked
  exact ⟨id_of_firstMatch first, possible⟩

end Part.Source

namespace Session

variable {δ ε α β : Type} [Transport δ] [Transport ε]

/-! ## One question -/

/-- The reply to the question for the part's identifier: a status, and the number on the line
    behind it. -/
def PartIdReply (n : UInt32) (input rest : Bytes) : Prop :=
  ∃ between text m, (Dialogue.status input).close = .done (.known .cmdSuccess) between ∧
    FirstLine text between rest ∧ n = m.toUInt32 ∧
    Text.readNumber 10 Text.limit32 (Text.trim (Text.Utf8.lossy text).toList) = .ok m

/-- **One question.** It is written once, before anything is read, and what it comes to is in
    its reply. -/
theorem readPartId_asks (s : Session δ) : ∃ outcome post,
    calls (readPartId s).2 = calls s ++ .write Command.readPartId.line outcome :: post ∧
      acts post = [] ∧ ∀ n, (readPartId s).1 = .ok n →
        PartIdReply n (held s ++ received post) (held (readPartId s).2) := by
  have opens : Opens Command.readPartId.line (readPartId : SessionM δ UInt32) :=
    (opens_query .readPartId).bind fun _ => frame_undropped.pure _
  obtain ⟨outcome, post, grown⟩ := opens s
  obtain ⟨cs, grown', -, ending⟩ := readPartId_follows s
  obtain rfl := List.append_cancel_left (grown'.symm.trans grown)
  obtain ⟨ds, grown'', kept⟩ := frame_undropped.readPartId s
  obtain rfl := List.append_cancel_left (grown''.symm.trans grown)
  have once : sent post = [] := by
    have said : Command.readPartId.line :: sent post <+: [Command.readPartId.line] :=
      Dialogue.said_readPartId _ ▸ sent_prefix_said ending
    simpa using said
  refine ⟨outcome, post, grown, ?_, fun n ok => ?_⟩
  · rw [acts_of_undropped fun outcome mem => kept outcome (List.mem_cons_of_mem _ mem), once]
    rfl
  · have settled := Settled.of_unbroken ending (by rw [ok]; exact nofun)
    have ended := congrArg Course.close settled.ended
    rw [ok] at ended
    obtain ⟨between, answered, told⟩ := Dialogue.readPartId_done.mp ended
    obtain ⟨text, m, line, -, same, number⟩ := Dialogue.number_done.mp told
    exact ⟨between, text, m, answered, line, same, number⟩

/-! ## The command that is given up

Dropping the input is one call, and nothing is held back then. So there are two ways in which
giving up a command can end (`probe_cases`), and what it leaves alone is what dropping the
input leaves alone too (`Frame.probe`). -/

theorem clearInput_calls (s : Session δ) : ∃ dropped,
    (clearInput s).1 = dropped.mapError (fun fault => .connecting (.ofPort fault)) ∧
      calls (clearInput s).2 = calls s ++ [.clear dropped] ∧ held (clearInput s).2 = [] := by
  rw [clearInput_apply]
  exact ⟨_, rfl, Array.toList_push, rfl⟩

/-- What giving up a command comes to. It ends with the first attempt to drop the input, if that
    fails, and otherwise with the second one, behind the question. -/
theorem probe_cases (s : Session δ) :
    (∃ fault s', probe s = (.error (.connecting (.ofPort fault)), s') ∧
      calls s' = calls s ++ [.clear (.error fault)]) ∨
    ∃ outcome post dropped s',
      probe s = (dropped.mapError fun fault => .connecting (.ofPort fault), s') ∧
      held s' = [] ∧ acts post = [] ∧ calls s' = calls s ++ .clear (.ok ()) ::
        .write Command.readPartId.line outcome :: post ++ [.clear dropped] := by
  obtain ⟨dropped, first, grown, none⟩ :=
    clearInput_calls { s with journal.notices := s.journal.notices.push .probing }
  rcases run : clearInput { s with journal.notices := s.journal.notices.push .probing } with
    ⟨result, s₁⟩
  rw [run] at first grown none
  cases dropped with
  | error fault =>
    left
    obtain rfl : result = .error (.connecting (.ofPort fault)) := first
    refine ⟨fault, s₁, ?_, grown⟩
    simp only [probe, bind_apply, notify, modify_apply, run]
  | ok _ =>
    right
    obtain rfl : result = .ok () := first
    obtain ⟨outcome, post, grown', quiet, -⟩ := readPartId_asks s₁
    -- whatever became of the question, the input is dropped again
    have again : ∃ notices, probe s =
        clearInput { (readPartId s₁).2 with journal.notices := notices } := by
      rcases asked : readPartId s₁ with ⟨failure | id, s₂⟩ <;>
      · simp only [probe, bind_apply, notify, modify_apply, run, attempt, asked]
        exact ⟨_, rfl⟩
    obtain ⟨notices, last⟩ := again
    obtain ⟨dropped, second, grown'', none⟩ :=
      clearInput_calls { (readPartId s₁).2 with journal.notices := notices }
    rw [← last] at second grown'' none
    refine ⟨outcome, post, dropped, (probe s).2, Prod.ext second rfl, none, quiet, ?_⟩
    have told : calls { (readPartId s₁).2 with journal.notices := notices } =
        calls (readPartId s₁).2 := rfl
    have before : calls { s with journal.notices := s.journal.notices.push .probing } =
        calls s := rfl
    rw [grown'', told, grown', grown, before]
    simp

theorem Frame.probe {r : Session δ → Session δ → Prop} (frame : Frame r)
    (cleared : Stays r (clearInput : SessionM δ Unit)) : Stays r (probe : SessionM δ Unit) :=
  (frame.asks [.readPartId]).probe List.mem_cons_self cleared

theorem probe_ok_iff (s : Session δ) : (probe s).1 = .ok () ↔
    ∃ between, calls (probe s).2 =
      calls s ++ .clear (.ok ()) :: between ++ [.clear (.ok ())] := by
  rcases probe_cases s with ⟨fault, s', run, grown⟩ | ⟨outcome, post, dropped, s', run, -, -, grown⟩
  · rw [run]
    refine iff_of_false nofun ?_
    rintro ⟨between, grown'⟩
    have same := List.append_cancel_left (grown.symm.trans (grown'.trans (List.append_assoc ..)))
    cases same
  · rw [run]
    cases dropped with
    | ok _ => exact iff_of_true rfl ⟨_, grown⟩
    | error fault =>
      refine iff_of_false nofun ?_
      rintro ⟨between, grown'⟩
      have last := List.append_inj_right' (grown.symm.trans grown') rfl
      cases last

theorem probe_acts (s : Session δ) : ∃ cs, calls (probe s).2 = calls s ++ cs ∧
    acts cs <+: [.drop, .write Command.readPartId.line, .drop] ∧
      ((probe s).1 = .ok () → acts cs = [.drop, .write Command.readPartId.line, .drop]) := by
  rcases probe_cases s with
    ⟨fault, s', run, grown⟩ | ⟨outcome, post, dropped, s', run, -, quiet, grown⟩
  · rw [run]
    exact ⟨_, grown, List.prefix_append [Act.drop] _, nofun⟩
  · rw [run]
    have done : acts (.clear (.ok ()) :: .write Command.readPartId.line outcome :: post ++
        [.clear dropped]) = [.drop, .write Command.readPartId.line, .drop] := by simp [quiet]
    exact ⟨_, grown.trans (List.append_assoc ..), done ▸ List.prefix_refl _, fun _ => done⟩

/-! ## Connecting

Connecting is asking (`ask`), in the session that was reached by then: one that is
synchronized, or one in which a command was given up. Where that fails, the device is not
asked. -/

section

variable (read : Text.LiteralReader) (crystal : UInt32) (source : Part.Source) (fs : Files)

/-- The session in which the device is asked what it is. -/
def reached (s : Session δ) : Session δ :=
  match synchronize crystal true s with
  | (.ok _, s') => s'
  | (.error _, s') => (probe s').2

/-- The handshake fails, and the input is dropped twice with success, around a command that is
    given up. -/
structure Recovers (s : Session δ) : Prop where
  failed : (synchronize crystal true s).1 ≠ .ok ()
  dropped : ∃ between, calls (reached crystal s) =
    calls (synchronize crystal true s).2 ++ .clear (.ok ()) :: between ++ [.clear (.ok ())]

theorem reached_of_ok {s : Session δ} (ok : (synchronize crystal true s).1 = .ok ()) :
    reached crystal s = (synchronize crystal true s).2 := by
  rw [reached]
  rcases run : synchronize crystal true s with ⟨failure | _, s'⟩
  · rw [run] at ok
    cases ok
  · rfl

theorem reached_of_failed {s : Session δ} (failed : (synchronize crystal true s).1 ≠ .ok ()) :
    reached crystal s = (probe (synchronize crystal true s).2).2 := by
  rw [reached]
  rcases run : synchronize crystal true s with ⟨failure | _, s'⟩
  · rfl
  · exact absurd (by rw [run]) failed

theorem recovers_iff {s : Session δ} : Recovers crystal s ↔
    (synchronize crystal true s).1 ≠ .ok () ∧
      (probe (synchronize crystal true s).2).1 = .ok () := by
  rw [probe_ok_iff]
  constructor
  · rintro ⟨failed, dropped⟩
    exact ⟨failed, reached_of_failed crystal failed ▸ dropped⟩
  · rintro ⟨failed, dropped⟩
    exact ⟨failed, reached_of_failed crystal failed ▸ dropped⟩

theorem connectBy_of_synchronized {s : Session δ}
    (ok : (synchronize crystal true s).1 = .ok ()) :
    connectBy read crystal source fs s = ask read source fs (reached crystal s) := by
  rw [reached]
  rcases run : synchronize crystal true s with ⟨failure | _, s'⟩
  · rw [run] at ok
    cases ok
  · simp only [connectBy, ask, bind_apply, attempt, run]

theorem connectBy_of_probed {s : Session δ} (failed : (synchronize crystal true s).1 ≠ .ok ())
    (probed : (probe (synchronize crystal true s).2).1 = .ok ()) :
    connectBy read crystal source fs s = ask read source fs (reached crystal s) := by
  rw [reached]
  rcases run : synchronize crystal true s with ⟨failure | _, s'⟩
  · rw [run] at probed
    rcases given : probe s' with ⟨failure | _, s''⟩
    · rw [given] at probed
      cases probed
    · simp only [connectBy, ask, bind_apply, attempt, run, given]
  · exact absurd (by rw [run]) failed

theorem connectBy_of_not_probed {s : Session δ}
    (failed : (synchronize crystal true s).1 ≠ .ok ())
    (unprobed : (probe (synchronize crystal true s).2).1 ≠ .ok ()) :
    (∀ part, (connectBy read crystal source fs s).1 ≠ .ok part) ∧
      (connectBy read crystal source fs s).2 = (probe (synchronize crystal true s).2).2 := by
  rcases run : synchronize crystal true s with ⟨failure | _, s'⟩
  · rw [run] at unprobed
    rcases given : probe s' with ⟨failure | _, s''⟩
    · simp only [connectBy, bind_apply, attempt, run, given]
      refine ⟨fun part same => ?_, trivial⟩
      cases same
    · exact absurd (by rw [given]) unprobed
  · exact absurd (by rw [run]) failed

omit [Transport δ] in
theorem describeBy_apply (id : UInt64) (s : Session δ) : ∃ notices,
    describeBy read source fs id s =
      (source.findBy read fs id, { s with journal.notices := notices }) := by
  rw [describeBy, Part.Source.findBy, bind_apply]
  cases source.lookUpBy read fs id with
  | error failure => exact ⟨s.journal.notices, rfl⟩
  | ok part =>
    refine ⟨s.journal.notices.push (.partFound id part.name source.text), ?_⟩
    show _ = ((part.checkGeometry >>= fun _ => pure part), _)
    simp only [ofExcept, pure_apply, bind_apply, notify, modify_apply]
    cases part.checkGeometry with
    | error failure => rfl
    | ok _ => rfl

/-- **Asking** is one question. What comes of it has the identifier that was told. -/
theorem ask_outcome (s : Session δ) : ∃ outcome post,
    calls (ask read source fs s).2 = calls s ++ .write Command.readPartId.line outcome :: post ∧
      acts post = [] ∧ ∀ part, (ask read source fs s).1 = .ok part →
        (ask read source fs s).2.phase = .ready ∧ part.checkGeometry = .ok () ∧
          ∃ n, PartIdReply n (held s ++ received post) (held (ask read source fs s).2) ∧
            part.id = n.toUInt64 := by
  obtain ⟨outcome, post, grown, quiet, told⟩ := readPartId_asks s
  refine ⟨outcome, post, ?_⟩
  rcases asked : readPartId s with ⟨failure | n, s'⟩
  · -- a question that fails is the end of it, whichever failure that is
    rw [asked] at grown
    have ended : ∃ failure', identify s = (.error failure', s') := by
      simp only [identify, bind_apply, attempt, asked]
      cases failure with
      | connecting fault => cases fault <;> exact ⟨_, rfl⟩
      | _ => exact ⟨_, rfl⟩
    obtain ⟨failure', ended⟩ := ended
    simp only [ask, bind_apply, ended]
    refine ⟨grown, quiet, fun part same => ?_⟩
    cases same
  · rw [asked] at grown told
    have identified : identify s = (.ok n, s') := by
      simp only [identify, bind_apply, attempt, asked, pure_apply]
    obtain ⟨notices, described⟩ :=
      describeBy_apply read source fs n.toUInt64 { s' with phase := .ready }
    simp only [ask, bind_apply, identified, assumeSynchronized, enter, modify_apply, described]
    cases found : source.findBy read fs n.toUInt64 with
    | error failure =>
      refine ⟨grown, quiet, fun part same => ?_⟩
      cases same
    | ok part =>
      simp only [notify, modify_apply, pure_apply]
      refine ⟨grown, quiet, fun _ same => ?_⟩
      cases same
      obtain ⟨same, possible⟩ := Part.Source.of_findBy found
      exact ⟨trivial, possible, n, told n rfl, same⟩

/-! ### Two runs -/

omit [Transport δ] [Transport ε] in
/-- Twins from here on, whatever crystal frequencies they remember. -/
def Kinship.since (R : δ → ε → Prop) (s : Session δ) (t : Session ε) : Kinship δ ε where
  device := R
  crystal _ _ := True
  before := calls s
  before' := calls t

/-- What is left of a session that has recovered, apart from its transport, its past and the
    crystal frequency. -/
theorem reached_of_recovers {s : Session δ} (recovers : Recovers crystal s) :
    (reached crystal s).settings = s.settings ∧ (reached crystal s).timeout = s.timeout ∧
      (reached crystal s).phase = .syncFailed ∧ (reached crystal s).heldBack = none := by
  obtain ⟨failed, probed⟩ := (recovers_iff crystal).mp recovers
  rw [reached_of_failed crystal failed]
  refine ⟨?_, ?_, ?_, ?_⟩
  · exact (frame_settings.probe (stays_clearInput fun settings _ _ _ => settings) _).trans
      (frame_settings.synchronize (fun _ _ => rfl) (fun _ _ => rfl) crystal true s)
  · exact (frame_timeout.probe (stays_clearInput fun _ _ _ timeout => timeout) _).trans
      (frame_timeout.synchronize (fun _ _ => rfl) (fun _ _ => rfl) crystal true s)
  · refine (frame_phase.probe (stays_clearInput fun _ phase _ _ => phase) _).trans ?_
    obtain ⟨s', run, -, -, -, -, phase⟩ := synchronize_apply crystal true s
    rw [run] at failed ⊢
    exact phase failed
  · rcases probe_cases (synchronize crystal true s).2 with
      ⟨fault, s', run, -⟩ | ⟨_, _, _, s', run, none, -⟩
    · rw [run] at probed
      cases probed
    · rw [run]
      exact Option.toList_eq_nil_iff.mp none

/-- **Two runs that recover** and whose transports answer alike from then on come to the same. -/
theorem connectBy_twins {R : δ → ε → Prop} (alike : Alike R) {s : Session δ} {t : Session ε}
    (recovers : Recovers crystal s) (recovers' : Recovers crystal t)
    (patience : s.settings.timeout = t.settings.timeout) (timeout : s.timeout = t.timeout)
    (related : R (reached crystal s).device (reached crystal t).device) :
    (connectBy read crystal source fs s).1 = (connectBy read crystal source fs t).1 ∧
      Twins (.since R (reached crystal s) (reached crystal t))
        (connectBy read crystal source fs s).2 (connectBy read crystal source fs t).2 := by
  obtain ⟨settings, still, phase, none⟩ := reached_of_recovers crystal recovers
  obtain ⟨settings', still', phase', none'⟩ := reached_of_recovers crystal recovers'
  have twins : Twins (.since R (reached crystal s) (reached crystal t)) (reached crystal s)
      (reached crystal t) :=
    { device := related
      patience := by rw [settings, settings', patience]
      phase := phase.trans phase'.symm
      timeout := by rw [still, still', timeout]
      crystal := trivial
      heldBack := none.trans none'.symm
      since := ⟨[], (List.append_nil _).symm, (List.append_nil _).symm⟩ }
  obtain ⟨failed, probed⟩ := (recovers_iff crystal).mp recovers
  obtain ⟨failed', probed'⟩ := (recovers_iff crystal).mp recovers'
  rw [connectBy_of_probed read crystal source fs failed probed,
    connectBy_of_probed read crystal source fs failed' probed']
  exact ask_agrees ⟨alike, fun _ => trivial⟩ read source fs _ _ twins

/-! ### Every run -/

theorem synchronize_acts (s : Session δ) : ∃ cs,
    calls (synchronize crystal true s).2 = calls s ++ cs ∧
      acts cs <+: (syncScript crystal).map .write ∧
      .write Command.readPartId.line ∉ acts cs := by
  obtain ⟨s', run, same, -⟩ := synchronize_apply crystal true s
  obtain ⟨cs, grown, kept⟩ := frame_undropped.synchronize (fun _ _ => .of_same rfl)
    (fun _ _ => .of_same rfl) crystal true s
  have script : sent cs <+: syncScript crystal := by
    rw [run] at grown
    exact sent_of_handshake (same.symm.trans grown)
  refine ⟨cs, grown, ?_, ?_⟩
  · rw [acts_of_undropped kept]
    exact script.map _
  · rw [acts_of_undropped kept]
    intro mem
    obtain ⟨line, written, same⟩ := List.mem_map.mp mem
    cases same
    exact readPartId_not_mem_syncScript crystal (script.subset written)

/-- **What comes of connecting**, by the calls made in the handshake and those behind it. -/
structure ConnectOutcome (s : Session δ) (cs ds : List Call) (result : Except Failure Part)
    (s' : Session δ) : Prop where
  /-- The handshake keeps to its script, in which nothing is dropped -/
  script : acts cs <+: (syncScript crystal).map .write
  /-- and the device is not asked. -/
  unasked : .write Command.readPartId.line ∉ acts cs
  /-- Where it succeeds, the device is asked once; -/
  once : (synchronize crystal true s).1 = .ok () → acts ds = [.write Command.readPartId.line]
  /-- where it fails, twice at most, with the input dropped before each time, -/
  twice : (synchronize crystal true s).1 ≠ .ok () → acts ds <+:
    [.drop, .write Command.readPartId.line, .drop, .write Command.readPartId.line]
  /-- and twice indeed where the input can be dropped. -/
  recovered : Recovers crystal s → acts ds =
    [.drop, .write Command.readPartId.line, .drop, .write Command.readPartId.line]
  ready : ∀ part, result = .ok part → s'.phase = .ready
  possible : ∀ part, result = .ok part → part.checkGeometry = .ok ()
  /-- The part is the one that was told in reply to the last question, behind which nothing was
      written any more. -/
  identified : ∀ part, result = .ok part → ∃ outcome post n,
    calls s' = calls (reached crystal s) ++ .write Command.readPartId.line outcome :: post ∧
      acts post = [] ∧ PartIdReply n (held (reached crystal s) ++ received post) (held s') ∧
      part.id = n.toUInt64

theorem connectOutcome_of_asked {s : Session δ} {cs before : List Call}
    (asks : connectBy read crystal source fs s = ask read source fs (reached crystal s))
    (here : calls (reached crystal s) = calls s ++ cs ++ before)
    (script : acts cs <+: (syncScript crystal).map .write)
    (unasked : .write Command.readPartId.line ∉ acts cs)
    (once : (synchronize crystal true s).1 = .ok () → acts before = [])
    (twice : (synchronize crystal true s).1 ≠ .ok () →
      acts before = [.drop, .write Command.readPartId.line, .drop]) :
    ∃ ds, calls (connectBy read crystal source fs s).2 = calls s ++ cs ++ ds ∧
      ConnectOutcome crystal s cs ds (connectBy read crystal source fs s).1
        (connectBy read crystal source fs s).2 := by
  obtain ⟨outcome, post, asked, quiet, told⟩ := ask_outcome read source fs (reached crystal s)
  rw [asks]
  have done : acts (before ++ .write Command.readPartId.line outcome :: post) =
      acts before ++ [.write Command.readPartId.line] := by simp [quiet]
  refine ⟨_, asked.trans (by rw [here, List.append_assoc]), {
    script, unasked
    once := fun ok => by rw [done, once ok, List.nil_append]
    twice := fun failed => by simp [done, twice failed]
    recovered := fun recovers => by simp [done, twice recovers.failed]
    ready := fun part same => (told part same).1
    possible := fun part same => (told part same).2.1
    identified := fun part same => ?_ }⟩
  obtain ⟨-, -, n, reply, same⟩ := told part same
  exact ⟨outcome, post, n, asked, quiet, reply, same⟩

theorem connectBy_outcome (s : Session δ) : ∃ cs ds,
    calls (synchronize crystal true s).2 = calls s ++ cs ∧
      calls (connectBy read crystal source fs s).2 = calls s ++ cs ++ ds ∧
      ConnectOutcome crystal s cs ds (connectBy read crystal source fs s).1
        (connectBy read crystal source fs s).2 := by
  obtain ⟨cs, grown, script, unasked⟩ := synchronize_acts crystal s
  refine ⟨cs, ?_⟩
  by_cases ok : (synchronize crystal true s).1 = .ok ()
  · have here : calls (reached crystal s) = calls s ++ cs ++ [] := by
      rw [reached_of_ok crystal ok, grown, List.append_nil]
    obtain ⟨ds, grown', outcome⟩ := connectOutcome_of_asked read crystal source fs
      (connectBy_of_synchronized read crystal source fs ok) here script unasked (fun _ => rfl)
      fun failed => absurd ok failed
    exact ⟨ds, grown, grown', outcome⟩
  obtain ⟨before, given, around, whole⟩ := probe_acts (synchronize crystal true s).2
  rw [grown] at given
  by_cases probed : (probe (synchronize crystal true s).2).1 = .ok ()
  · have here : calls (reached crystal s) = calls s ++ cs ++ before := by
      rw [reached_of_failed crystal ok, given]
    obtain ⟨ds, grown', outcome⟩ := connectOutcome_of_asked read crystal source fs
      (connectBy_of_probed read crystal source fs ok probed) here script unasked
      (fun synced => absurd synced ok) fun _ => whole probed
    exact ⟨ds, grown, grown', outcome⟩
  · obtain ⟨failed, ended⟩ := connectBy_of_not_probed read crystal source fs ok probed
    refine ⟨before, grown, by rw [ended, given], {
      script, unasked
      once := fun synced => absurd synced ok
      twice := fun _ => around.trans (List.prefix_append _ [_])
      recovered := fun recovers => absurd ((recovers_iff crystal).mp recovers).2 probed
      ready := fun part same => absurd same (failed part)
      possible := fun part same => absurd same (failed part)
      identified := fun part same => absurd same (failed part) }⟩

/-- **Recovery forgets the past.** Two sessions that recover, whatever came before, and whose
    transports answer alike from then on, connect with the same result and are twins in the end.
    And in every run the device is asked once behind a handshake, and at most twice where it
    failed; the part that is found was told in reply to the last question. How the numbers in a
    parts file are read makes no difference to any of it. -/
theorem connect_forgets :
    (∀ {R : δ → ε → Prop} {s : Session δ} {t : Session ε}, Alike R → Recovers crystal s →
      Recovers crystal t → s.settings.timeout = t.settings.timeout → s.timeout = t.timeout →
      R (reached crystal s).device (reached crystal t).device →
      (connectBy read crystal source fs s).1 = (connectBy read crystal source fs t).1 ∧
        Twins (.since R (reached crystal s) (reached crystal t))
          (connectBy read crystal source fs s).2 (connectBy read crystal source fs t).2) ∧
      ∀ s : Session δ, ∃ cs ds, calls (synchronize crystal true s).2 = calls s ++ cs ∧
        calls (connectBy read crystal source fs s).2 = calls s ++ cs ++ ds ∧
        ConnectOutcome crystal s cs ds (connectBy read crystal source fs s).1
          (connectBy read crystal source fs s).2 :=
  ⟨fun alike recovers recovers' patience timeout related =>
      connectBy_twins read crystal source fs alike recovers recovers' patience timeout related,
    connectBy_outcome read crystal source fs⟩

end

end Session

/-! ## Two scripts that meet -/

namespace Scripted

/-- Scripts with the same input and the same replies ahead, and with no faults in store, however
    much was written and read so far. -/
inductive SameAhead : Scripted → Scripted → Prop
  | intro (queue : Bytes) (replies : List Bytes) (writes reads writes' reads' : Nat) :
      SameAhead { queue, replies, writes, reads }
        { queue, replies, writes := writes', reads := reads' }

theorem alike_sameAhead : Session.Alike SameAhead where
  write h b := by
    cases h
    exact ⟨rfl, .intro ..⟩
  read h wanted timeout := by
    cases h
    exact ⟨rfl, .intro ..⟩
  clear h := by
    cases h
    exact ⟨rfl, .intro ..⟩

end Scripted

namespace Session

/-- A device that is silent at first, and then answers questions. -/
def silent : Session Scripted :=
  start { replies := ["", "0\r\n32784\r\n", "0\r\n33040\r\n"].map Bytes.ascii } {}

/-- A device that babbles, and answers no question before the last. -/
def babbling : Session Scripted :=
  { start { queue := Bytes.ascii "0\r\n33056\r\n", writes := 7
            replies := ["no loader here", "what?", "0\r\n33040\r\n"].map Bytes.ascii } {}
    with heldBack := some 48 }

/-- Both are taken for what the last answer says. -/
theorem connect_forgets_scripted :
    Recovers 12000 silent ∧ Recovers 12000 babbling ∧
      Scripted.SameAhead (reached 12000 silent).device (reached 12000 babbling).device ∧
      (connect 12000 .builtIn default silent).1 = (connect 12000 .builtIn default babbling).1 := by
  have recovers : Recovers 12000 silent :=
    (recovers_iff 12000).mpr ⟨by decide +kernel, by decide +kernel⟩
  have recovers' : Recovers 12000 babbling :=
    (recovers_iff 12000).mpr ⟨by decide +kernel, by decide +kernel⟩
  have ahead : (reached 12000 silent).device =
      { replies := [Bytes.ascii "0\r\n33040\r\n"], writes := 2, reads := 9 } := by decide +kernel
  have ahead' : (reached 12000 babbling).device =
      { replies := [Bytes.ascii "0\r\n33040\r\n"], writes := 9, reads := 2 } := by decide +kernel
  have meets :
      Scripted.SameAhead (reached 12000 silent).device (reached 12000 babbling).device := by
    rw [ahead, ahead']
    exact .intro ..
  have same := (connect_forgets Text.readLiteral 12000 .builtIn default).1
    Scripted.alike_sameAhead recovers recovers' rfl rfl meets
  exact ⟨recovers, recovers', meets, same.1⟩

end Session

end SerialIsp
