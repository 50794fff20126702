import SerialIsp.Proofs.Frames.Operations
import SerialIsp.Proofs.Stages

/-!
# How long is waited

A read waits as long as the timeout in force. Who uses a session may put another one in force
for some of what is done with it; the operations themselves do so in one place only, around the
exchange of a command. That waits as long as its kind needs or the settings say, whichever is
longer, and it puts the timeout back however it ends. So which timeout a read was made with
depends on whether it belongs to such an exchange, and on nothing else.

That is told by a trace. It takes a run apart into single calls on the transport and whole
exchanges, from the session that was reached to the next one, and marks every call with the
command in whose exchange it was made. Anything else that a run does leaves the transport, the
timeout and the settings alone. A trace names the commands that may be sent; the handshake
sends none, so all its reads, those behind its last line too, wait for the timeout in force.
-/

namespace SerialIsp

open Wire

variable {α δ : Type} [Transport δ]

namespace Session

/-! ## Traces -/

/-- Only what does not bear on waiting has changed. -/
structure Idles (s s' : Session δ) : Prop where
  device : s'.device = s.device
  calls : s'.journal.calls = s.journal.calls
  timeout : s'.timeout = s.timeout
  settings : s'.settings = s.settings

/-- A run that may send commands of these kinds, by its calls on the transport. A call is marked
    with the kind of the command in whose exchange it was made. -/
inductive Trace (kinds : List CommandKind) :
    Session δ → List (Option CommandKind × Call) → Session δ → Prop
  | idle {s s' : Session δ} (idles : Idles s s') : Trace kinds s [] s'
  | write (s : Session δ) (b : Bytes) :
      Trace kinds s [(none, .write b (Transport.write s.device b).1)] (callWrite b s).2
  | read (s : Session δ) (wanted : Nat) :
      Trace kinds s [(none, .read wanted s.timeout (Transport.read s.device wanted s.timeout).1)]
        (callRead wanted s).2
  | clear (s : Session δ) :
      Trace kinds s [(none, .clear (Transport.clear s.device).1)] (callClear s).2
  | exchange (s : Session δ) (c : Command) {cs : List Call} (mem : c.kind ∈ kinds)
      (made : calls (commandStatus c s).2 = calls s ++ cs) :
      Trace kinds s (cs.map (some c.kind, ·)) (commandStatus c s).2
  | trans {s t u : Session δ} {cs ds : List (Option CommandKind × Call)}
      (first : Trace kinds s cs t) (second : Trace kinds t ds u) : Trace kinds s (cs ++ ds) u

/-- The timeout that is due to a read: that of the exchange it belongs to, or the one in force. -/
def due (s : Session δ) : Option CommandKind → Nat
  | some kind => max kind.patience s.settings.timeout
  | none => s.timeout

/-- The run ends with the timeout it began with, and every read has waited as was due. -/
structure Timely (kinds : List CommandKind) (s s' : Session δ) : Prop where
  restored : s'.timeout = s.timeout
  settings : s'.settings = s.settings
  waited : ∃ cs, Trace kinds s cs s' ∧ calls s' = calls s ++ cs.map Prod.snd ∧
    ∀ mark wanted timeout outcome, (mark, Call.read wanted timeout outcome) ∈ cs →
      timeout = s.due mark

/-! ## The reads of an exchange -/

/-- Calls were made in between, and all the reads among them with this timeout. -/
def ReadsWith (timeout : Nat) (s s' : Session δ) : Prop :=
  ∃ cs, calls s' = calls s ++ cs ∧ ∀ wanted t outcome, .read wanted t outcome ∈ cs → t = timeout

section

omit [Transport δ]

variable {timeout : Nat} {s t u : Session δ}

theorem ReadsWith.of_same (same : calls t = calls s) : ReadsWith timeout s t :=
  ⟨[], by rw [same, List.append_nil], fun _ _ _ mem => nomatch mem⟩

theorem ReadsWith.of_call {c : Call} (call : calls t = calls s ++ [c])
    (waited : ∀ wanted t outcome, c = .read wanted t outcome → t = timeout) :
    ReadsWith timeout s t :=
  ⟨[c], call, fun wanted t outcome mem => waited wanted t outcome (List.mem_singleton.mp mem).symm⟩

theorem ReadsWith.trans (first : ReadsWith timeout s t) (second : ReadsWith timeout t u) :
    ReadsWith timeout s u := by
  obtain ⟨cs, grown, waited⟩ := first
  obtain ⟨ds, grown', waited'⟩ := second
  refine ⟨cs ++ ds, by rw [grown', grown, List.append_assoc], fun wanted t outcome mem => ?_⟩
  rcases List.mem_append.mp mem with here | later
  · exact waited wanted t outcome here
  · exact waited' wanted t outcome later

end

theorem steps_readsWith :
    Steps fun s s' : Session δ => s'.timeout = s.timeout ∧ ReadsWith s.timeout s s' where
  refl _ := ⟨rfl, .of_same rfl⟩
  trans := by
    rintro s t u ⟨same, waited⟩ ⟨same', waited'⟩
    rw [same] at same' waited'
    exact ⟨same', waited.trans waited'⟩
  told _ _ _ := ⟨rfl, .of_same rfl⟩
  took _ := ⟨rfl, .of_same rfl⟩
  held _ _ _ := ⟨rfl, .of_same rfl⟩
  wrote b s := ⟨rfl, .of_call Array.toList_push fun _ _ _ same => nomatch same⟩
  read n s := by
    refine ⟨rfl, .of_call Array.toList_push fun wanted t outcome same => ?_⟩
    cases same
    rfl

/-- **An exchange** waits as long as its command needs, whatever timeout is in force. -/
theorem commandStatus_readsWith (c : Command) (s : Session δ) :
    ReadsWith (max c.kind.patience s.settings.timeout) s (commandStatus c s).2 := by
  let timeout := max c.kind.patience s.settings.timeout
  have exchange : Stays (ReadsWith timeout)
      (withTimeout timeout do writeBytes c.line; readStatus : SessionM δ Status) := by
    intro t
    have inside := steps_readsWith.bind (steps_readsWith.writeBytes c.line)
      (fun _ => steps_readsWith.readStatus) { t with timeout := timeout }
    exact inside.2
  have traced (status : Status) : Stays (ReadsWith timeout) (do
      traceNotice (.statusTraced c.kind status)
      return status : SessionM δ Status) := by
    intro t
    obtain ⟨t', told, same, -⟩ := silent_traceNotice (.statusTraced c.kind status) t
    rw [run_bind, told]
    exact .of_same same
  have whole := Stays.bind (r := ReadsWith timeout) .trans (stays_during c.kind exchange) traced
  exact whole { s with journal.notices := s.journal.notices.push (.sendingCommand c) }

/-! ## Every operation leaves a trace -/

section

variable {kinds : List CommandKind} {s s' : Session δ} {cs : List (Option CommandKind × Call)}

theorem Trace.calls_eq (trace : Trace kinds s cs s') :
    calls s' = calls s ++ cs.map Prod.snd := by
  induction trace with
  | idle idles => exact (congrArg Array.toList idles.calls).trans (List.append_nil _).symm
  | write s b => exact Array.toList_push
  | read s wanted => exact Array.toList_push
  | clear s => exact Array.toList_push
  | @exchange s c cs mem made =>
    rw [made, List.map_map]
    exact congrArg (calls s ++ ·) (List.map_id cs).symm
  | trans first second ih ih' => rw [ih', ih, List.map_append, List.append_assoc]

theorem Trace.kept (trace : Trace kinds s cs s') :
    s'.timeout = s.timeout ∧ s'.settings = s.settings := by
  induction trace with
  | idle idles => exact ⟨idles.timeout, idles.settings⟩
  | write s b => exact ⟨rfl, rfl⟩
  | read s wanted => exact ⟨rfl, rfl⟩
  | clear s => exact ⟨rfl, rfl⟩
  | exchange s c mem made =>
    exact ⟨frame_timeout.commandStatus c s, frame_settings.commandStatus c s⟩
  | trans first second ih ih' => exact ⟨ih'.1.trans ih.1, ih'.2.trans ih.2⟩

theorem Trace.waited (trace : Trace kinds s cs s') {mark : Option CommandKind}
    {wanted timeout : Nat} {outcome : Except PortFault Bytes}
    (mem : (mark, Call.read wanted timeout outcome) ∈ cs) : timeout = s.due mark := by
  induction trace with
  | idle idles => cases mem
  | write s b => cases List.mem_singleton.mp mem
  | read s n =>
    cases List.mem_singleton.mp mem
    rfl
  | clear s => cases List.mem_singleton.mp mem
  | exchange s c inside made =>
    obtain ⟨call, here, same⟩ := List.mem_map.mp mem
    cases same
    obtain ⟨ds, made', waited⟩ := commandStatus_readsWith c s
    obtain rfl := List.append_cancel_left (made.symm.trans made')
    exact waited wanted timeout outcome here
  | @trans s t u cs ds first second ih ih' =>
    -- nothing that decides what is due has changed in between
    have same : t.due mark = s.due mark := by
      obtain ⟨timeout, settings⟩ := first.kept
      cases mark with
      | none => exact timeout
      | some kind => rw [due, due, settings]
    rcases List.mem_append.mp mem with here | later
    · exact ih here
    · exact (ih' later).trans same

theorem Trace.timely (trace : Trace kinds s cs s') : Timely kinds s s' :=
  ⟨trace.kept.1, trace.kept.2, cs, trace, trace.calls_eq, fun _ _ _ _ mem => trace.waited mem⟩

end

/-- Sessions with a trace from the one to the other. -/
def Traced (kinds : List CommandKind) (s s' : Session δ) : Prop := ∃ cs, Trace kinds s cs s'

theorem traced_of_idles {kinds : List CommandKind} {s s' : Session δ}
    (idles : Idles s s') : Traced kinds s s' := ⟨[], .idle idles⟩

theorem asks_traced (kinds : List CommandKind) : Asks kinds (Traced (δ := δ) kinds) where
  refl s := traced_of_idles ⟨rfl, rfl, rfl, rfl⟩
  trans := by
    rintro s t u ⟨cs, first⟩ ⟨ds, second⟩
    exact ⟨cs ++ ds, first.trans second⟩
  told s _ _ := traced_of_idles ⟨rfl, rfl, rfl, rfl⟩
  took s := traced_of_idles ⟨rfl, rfl, rfl, rfl⟩
  held s _ _ := traced_of_idles ⟨rfl, rfl, rfl, rfl⟩
  wrote b s := ⟨_, .write s b⟩
  read n s := ⟨_, .read s n⟩
  asked c mem s := by
    obtain ⟨cs, made, -⟩ := commandStatus_readsWith c s
    exact ⟨_, .exchange s c mem made⟩

theorem clearInput_traced (kinds : List CommandKind) :
    Stays (Traced kinds) (clearInput : SessionM δ Unit) := by
  intro s
  rw [clearInput_apply]
  have emptied : Trace kinds s [] { s with heldBack := none } := .idle ⟨rfl, rfl, rfl, rfl⟩
  have dropped := emptied.trans (.clear { s with heldBack := none })
  exact ⟨_, dropped⟩

end Session

/-! ## What every operation sends

The lists leave nothing out: what respects the exchanges of these kinds respects the operation. -/

namespace SessionCall

/-- The kinds of the commands that a call may send, with an exchange for each. -/
def kinds : SessionCall α → List CommandKind
  | commandStatus c => [c.kind]
  | command c => [c.kind]
  | unlock => [.unlock]
  | readPartId => [.readPartId]
  | readUid => [.readUid]
  | readBootVersion => [.readBootVersion]
  | prepareForWrite .. => [.prepareForWrite]
  | eraseSectors .. => [.erase]
  | blankCheck .. => [.blankCheck]
  | copyRamToFlash .. => [.copyRamToFlash]
  | compare .. => [.compare]
  | go .. => [.go]
  | readMemory .. => [.readMemory]
  | writeToRam .. => [.writeToRam]
  | connect .. => [.readPartId]
  | synchronize .. | assumeSynchronized | writeBytes _ | readExact _ | readLine | drainLine
  | readNumber | clearInput | phase | frequency | patience => []

theorem stays {r : Session δ → Session δ → Prop} (c : SessionCall α)
    (asks : Session.Asks c.kinds r) (entered : ∀ s phase, r s { s with phase := phase })
    (remembered : ∀ s crystal, r s { s with crystal := some crystal })
    (cleared : Stays r (Session.clearInput : SessionM δ Unit)) : Stays r c.run := by
  cases c with
  | synchronize crystal quiet => exact asks.synchronize entered remembered crystal quiet
  | assumeSynchronized => exact fun s => entered s .ready
  | writeBytes b => exact asks.writeBytes b
  | readExact n => exact asks.readExact n
  | readLine => exact asks.readLine
  | drainLine => exact asks.drainLine
  | readNumber => exact asks.readNumber
  | clearInput => exact cleared
  | commandStatus c => exact asks.asked c List.mem_cons_self
  | command c => exact asks.command c List.mem_cons_self
  | unlock => exact asks.command .unlock List.mem_cons_self
  | readPartId => exact asks.readPartId List.mem_cons_self
  | readUid => exact asks.readUid List.mem_cons_self
  | readBootVersion => exact asks.readBootVersion List.mem_cons_self
  | prepareForWrite first last => exact asks.prepareForWrite List.mem_cons_self first last
  | eraseSectors first last => exact asks.eraseSectors List.mem_cons_self first last
  | blankCheck first last => exact asks.blankCheck List.mem_cons_self first last
  | copyRamToFlash flashAddress ramAddress size =>
    exact asks.copyRamToFlash List.mem_cons_self flashAddress ramAddress size
  | compare address1 address2 size => exact asks.compare List.mem_cons_self address1 address2 size
  | go address mode => exact asks.go List.mem_cons_self address mode
  | readMemory address count encoding progress =>
    exact asks.readMemory List.mem_cons_self address count encoding progress
  | writeToRam address data encoding =>
    exact asks.writeToRam List.mem_cons_self address data encoding
  | connect read crystal source fs =>
    exact asks.connectBy List.mem_cons_self entered remembered cleared read crystal source fs
  | phase => exact asks.get fun s => asks.pure _
  | frequency => exact asks.get fun s => asks.pure _
  | patience => exact asks.get fun s => asks.pure _

theorem timely (c : SessionCall α) (s : Session δ) : Session.Timely c.kinds s (c.run s).2 := by
  obtain ⟨cs, trace⟩ := c.stays (Session.asks_traced c.kinds)
    (fun s phase => Session.traced_of_idles ⟨rfl, rfl, rfl, rfl⟩)
    (fun s crystal => Session.traced_of_idles ⟨rfl, rfl, rfl, rfl⟩)
    (Session.clearInput_traced c.kinds) s
  exact trace.timely

end SessionCall

/-! An operation of a programmer is made of operations on its session. -/

namespace Programmer

open Session

variable {β : Type} {r : Session δ → Session δ → Prop}

/-- The relation holds between the sessions. -/
def Along (r : Session δ → Session δ → Prop) (p q : Programmer δ) : Prop := r p.session q.session

omit [Transport δ] in
theorem along_onSession {action : SessionM δ α} (h : Stays r action) :
    Stays (Along r) (onSession action) := fun p => h p.session

omit [Transport δ] in
theorem along_get {next : Programmer δ → ProgrammerM δ α} (h : ∀ p, Stays (Along r) (next p)) :
    Stays (Along r) (get >>= next) := fun p => h p p

section

variable (steps : Steps r)

include steps

theorem along_bind {action : ProgrammerM δ α} {next : α → ProgrammerM δ β}
    (first : Stays (Along r) action) (second : ∀ a, Stays (Along r) (next a)) :
    Stays (Along r) (action >>= next) := by
  refine first.bind ?_ second
  intro p q u pq qu
  exact steps.trans pq qu

theorem along_enterStage (stage : Stage) :
    Stays (Along r) (enterStage stage : ProgrammerM δ Unit) := fun p => steps.refl p.session

theorem along_operation (first : Stage) {action : ProgrammerM δ α}
    (h : Stays (Along r) action) : Stays (Along r) (operation first action) := by
  intro p
  have inside := h { p with stage := first }
  rw [operation_apply]
  rcases run : action { p with stage := first } with ⟨failure | a, q⟩
  · rw [run] at inside
    exact steps.trans inside (steps.told q.session _ _)
  · rw [run] at inside
    exact inside

theorem along_notices (notices : List Notice) :
    Stays (Along r) (onSession (notices.forM notify) : ProgrammerM δ Unit) := by
  intro p
  show r p.session (notices.forM notify p.session).2
  rw [Session.forM_notify]
  exact steps.told p.session _ _

end

theorem along_flash (asks : Asks (erasing ++ programming ++ [.readMemory]) r) (image : Image)
    (mode : UserCode) (verify progress : Bool) :
    Stays (Along r) (flash image mode verify progress : ProgrammerM δ Unit) := by
  have steps := asks.toSteps
  have verified (part : Part) (data : Bytes) : Stays (Along r) (do
      if verify then
        enterStage .verifying
        onSession (verifyFlash part data progress) : ProgrammerM δ Unit) := by
    refine .ite (fun _ => ?_) fun _ p => steps.refl p.session
    exact along_bind steps (along_enterStage steps _) fun _ =>
      along_onSession ((asks.sub (by decide)).verifyFlash part data progress)
  refine along_operation steps _ (along_get fun p => ?_)
  refine along_bind steps (along_notices steps _) fun _ => ?_
  refine along_bind steps (along_onSession (asks.ofExcept _)) fun plan => ?_
  refine along_bind steps (along_enterStage steps _) fun _ => ?_
  refine along_bind steps (along_onSession ((asks.sub (by decide)).eraseFlash _ _)) fun _ => ?_
  refine along_bind steps (along_enterStage steps _) fun _ => ?_
  have written := (asks.sub (by decide)).programFlash p.part plan progress
  exact along_bind steps (along_onSession (stays_whileFlashing written)) fun _ => verified _ _

theorem along_readFlash (asks : Asks [.readMemory] r) (progress : Bool) :
    Stays (Along r) (readFlash progress : ProgrammerM δ Bytes) :=
  along_get fun _ => along_onSession (asks.readFlash List.mem_cons_self _ progress)

end Programmer

namespace ProgrammerCall

/-- The kinds of the commands that a call may send. -/
def kinds : ProgrammerCall α → List CommandKind
  | deviceInfo => [.readPartId, .readUid, .readBootVersion]
  | readFlash _ => [.readMemory]
  | dump .. => [.readMemory]
  | erase _ => Session.erasing
  | flash .. => Session.erasing ++ Session.programming ++ [.readMemory]
  | execute => Session.starting
  | part | stage => []

theorem along {r : Session δ → Session δ → Prop} (c : ProgrammerCall α)
    (asks : Session.Asks c.kinds r) (p : Programmer δ) : r p.session (c.run p).2.session := by
  cases c with
  | deviceInfo =>
    exact Programmer.along_get (fun q => Programmer.along_onSession (asks.deviceInfo q.part)) p
  | readFlash progress => exact Programmer.along_readFlash asks progress p
  | dump sink progress =>
    have read := Programmer.along_readFlash asks progress
    rw [run, Programmer.dump]
    rcases content : Programmer.readFlash progress p with ⟨failure | data, q⟩
    · exact read.of_run content
    · dsimp only
      rcases sink.put data with ⟨fault | _, sink'⟩
      · exact read.of_run content
      · exact asks.trans (read.of_run content) (asks.notify _ q.session)
  | erase progress =>
    refine Programmer.along_operation asks.toSteps _ (Programmer.along_get fun q => ?_) p
    exact Programmer.along_onSession (asks.eraseFlash q.part progress)
  | flash image mode verify progress =>
    exact Programmer.along_flash asks image mode verify progress p
  | execute =>
    exact Programmer.along_get (fun q => Programmer.along_onSession (asks.execute q.part)) p
  | part => exact asks.refl p.session
  | stage => exact asks.refl p.session

theorem timely (c : ProgrammerCall α) (p : Programmer δ) :
    Session.Timely c.kinds p.session (c.run p).2.session := by
  obtain ⟨cs, trace⟩ := c.along (Session.asks_traced c.kinds) p
  exact trace.timely

end ProgrammerCall

/-! ## Talks -/

/-- Every call of a talk is timely in the session that was reached by then, with the timeout
    that was given to it, and a timeout that was given to a part of the talk ends with that
    part. -/
def Talk.Timed {α : Type} : Talk α → Session δ → Prop
  | done _, _ => True
  | call c next, s => Session.Timely c.kinds s (c.run s).2 ∧ (next (c.run s).1).Timed (c.run s).2
  | within timeout inner next, s =>
    let ended := Session.withTimeout timeout (fun s => inner.run s) s
    inner.Timed { s with timeout := timeout } ∧ ended.2.timeout = s.timeout ∧
      (next ended.1).Timed ended.2

theorem Talk.timed (t : Talk α) (s : Session δ) :
    t.Timed s ∧ (t.run s).2.timeout = s.timeout ∧ (t.run s).2.settings = s.settings := by
  induction t generalizing s with
  | done a => exact ⟨trivial, rfl, rfl⟩
  | call c next ih =>
    have timely := c.timely s
    obtain ⟨rest, restored, settings⟩ := ih (c.run s).1 (c.run s).2
    exact ⟨⟨timely, rest⟩, restored.trans timely.restored, settings.trans timely.settings⟩
  | within timeout inner next ihInner ih =>
    obtain ⟨inside, -, same⟩ := ihInner { s with timeout := timeout }
    obtain ⟨rest, restored, settings⟩ := ih _
      (Session.withTimeout timeout (fun s => inner.run s) s).2
    exact ⟨⟨inside, rfl, rest⟩, restored, settings.trans same⟩

/-- **Who waits how long.** The reads of an exchange wait as long as its command needs, or as
    long as the settings say. Every operation ends with the timeout it began with, and so does
    every sequence of them, some of them with a timeout of their own; and all its reads but
    those of its exchanges wait for the timeout in force. -/
theorem waits_as_due (δ : Type) [Transport δ] :
    (∀ (c : Command) (s : Session δ), ∃ cs, calls (Session.commandStatus c s).2 = calls s ++ cs ∧
      ∀ wanted timeout outcome, .read wanted timeout outcome ∈ cs →
        timeout = max c.kind.patience s.settings.timeout) ∧
    (∀ {α : Type} (c : SessionCall α) (s : Session δ), Session.Timely c.kinds s (c.run s).2) ∧
    (∀ {α : Type} (c : ProgrammerCall α) (p : Programmer δ),
      Session.Timely c.kinds p.session (c.run p).2.session) ∧
    ∀ {α : Type} (t : Talk α) (s : Session δ),
      t.Timed s ∧ (t.run s).2.timeout = s.timeout ∧ (t.run s).2.settings = s.settings :=
  ⟨Session.commandStatus_readsWith, SessionCall.timely, ProgrammerCall.timely, Talk.timed⟩

end SerialIsp
