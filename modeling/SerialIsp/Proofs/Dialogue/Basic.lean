import SerialIsp.Programmer.Basic

/-!
# Dialogues

What an operation writes, and what it comes to, is settled by the bytes it hears. A
`Dialogue` is that dependence by itself, without a transport: a function from the bytes that
arrive to the writes made on them and to the end they lead to. Where the bytes run out before
the end, the dialogue is left waiting.

An action *follows* a dialogue (`FollowsAt`) when each of its runs, over any transport, is a
run of the dialogue on the bytes the transport handed out. Two laws hold at every single call
(`Lawful`):

> a write is made only when it is due on the bytes heard **before** it, and a read never asks
> for more bytes than the dialogue still needs.

And a run has two ways to end: every call did what was asked of it and the dialogue came to
its end, or the last call, and no other, did not (`Broken`).

The input of a dialogue is logical: it opens with the byte that is held back from an earlier
reply, if there is one, and what is held back afterwards is the first byte not used.
-/

namespace SerialIsp

/-! ## Calls -/

/-- Whether a call did all that was asked of it. -/
def Call.full : Call → Prop
  | .write offered (.ok taken) => taken = offered.length
  | .read wanted _ (.ok arrived) => arrived.length = wanted
  | .clear (.ok ()) => True
  | .write _ (.error _) => False
  | .read _ _ (.error _) => False
  | .clear (.error _) => False

/-- What a call offered to the transport. -/
def Call.offered : Call → List Bytes
  | .write offered _ => [offered]
  | _ => []

/-- What a call brought. -/
def Call.arrived : Call → Bytes
  | .read _ _ (.ok arrived) => arrived
  | _ => []

/-- The writes of some calls, in order, whether or not they were taken. -/
def sent (cs : List Call) : List Bytes := cs.flatMap Call.offered

/-- The bytes some calls brought, in order. -/
def received (cs : List Call) : Bytes := cs.flatMap Call.arrived

@[simp] theorem sent_nil : sent [] = [] := rfl

@[simp] theorem received_nil : received [] = [] := rfl

@[simp] theorem sent_append (cs ds : List Call) : sent (cs ++ ds) = sent cs ++ sent ds :=
  List.flatMap_append

@[simp] theorem received_append (cs ds : List Call) :
    received (cs ++ ds) = received cs ++ received ds := List.flatMap_append

@[simp] theorem sent_write (b : Bytes) (o : Except PortFault Nat) : sent [.write b o] = [b] := rfl

@[simp] theorem received_write (b : Bytes) (o : Except PortFault Nat) :
    received [.write b o] = [] := rfl

@[simp] theorem sent_read (n timeout : Nat) (o : Except PortFault Bytes) :
    sent [.read n timeout o] = [] := rfl

@[simp] theorem received_read (n timeout : Nat) (b : Bytes) :
    received [.read n timeout (.ok b)] = b := List.append_nil b

@[simp] theorem received_read_error (n timeout : Nat) (fault : PortFault) :
    received [.read n timeout (.error fault)] = [] := rfl

/-! ## States that talk over a line -/

/-- States with a line: the calls made so far, and the byte held back, if there is one. -/
class OnLine (σ : Type) where
  calls : σ → List Call
  held : σ → Bytes

export OnLine (calls held)

instance {δ : Type} : OnLine (Session δ) where
  calls s := s.journal.calls.toList
  held s := s.heldBack.toList

instance {δ : Type} : OnLine (Programmer δ) where
  calls p := calls p.session
  held p := held p.session

/-! ## Dialogues -/

/-- What a dialogue comes to. -/
inductive Close (α : Type) where
  /-- It ends with a value, and leaves the rest of its input. -/
  | done (value : α) (rest : Bytes)
  /-- It ends with a failure, and leaves the rest of its input. -/
  | failed (failure : Failure) (rest : Bytes)
  /-- Its input ends first. -/
  | waiting

/-- What is written on some input, and what it comes to. -/
structure Course (α : Type) where
  said : List Bytes
  close : Close α

/-- What is said, as a function of what is heard. -/
def Dialogue (α : Type) : Type := Bytes → Course α

namespace Close

variable {α β : Type}

/-- How a dialogue ends that comes to a result. -/
def ofResult : Except Failure α → Bytes → Close α
  | .ok a, rest => .done a rest
  | .error failure, rest => .failed failure rest

/-- Changes the value of an end. -/
def map (f : α → β) : Close α → Close β
  | .done a rest => .done (f a) rest
  | .failed failure rest => .failed failure rest
  | .waiting => .waiting

theorem map_eq_done {f : α → β} {c : Close α} {b : β} {rest : Bytes} :
    c.map f = .done b rest ↔ ∃ a, c = .done a rest ∧ b = f a := by
  constructor
  · intro ended
    cases c with
    | done a rest =>
      cases ended
      exact ⟨a, rfl, rfl⟩
    | failed failure rest => cases ended
    | waiting => cases ended
  · rintro ⟨a, rfl, rfl⟩
    rfl

theorem map_eq_failed {f : α → β} {c : Close α} {failure : Failure} {rest : Bytes} :
    c.map f = .failed failure rest ↔ c = .failed failure rest := by
  cases c <;> simp [map]

end Close

namespace Dialogue

variable {α β γ : Type}

/-- Goes on from where a course ends, unless it fails or waits. -/
def goOn (next : α → Dialogue β) (c : Course α) : Course β :=
  match c.close with
  | .done a rest => ⟨c.said ++ (next a rest).said, (next a rest).close⟩
  | .failed failure rest => ⟨c.said, .failed failure rest⟩
  | .waiting => ⟨c.said, .waiting⟩

instance : Monad Dialogue where
  pure a := fun input => ⟨[], .done a input⟩
  bind p next := fun input => goOn next (p input)

/-- Fails. -/
def fail (failure : Failure) : Dialogue α := fun input => ⟨[], .failed failure input⟩

/-- Writes. -/
def say (b : Bytes) : Dialogue Unit := fun input => ⟨[b], .done () input⟩

/-- A plain result. -/
def ofExcept : Except Failure α → Dialogue α
  | .ok a => pure a
  | .error failure => fail failure

/-- Changes the failures of a dialogue. -/
def mapFailure (g : Failure → Failure) (p : Dialogue α) : Dialogue α := fun input =>
  match (p input).close with
  | .failed failure rest => ⟨(p input).said, .failed (g failure) rest⟩
  | _ => p input

theorem pure_apply (a : α) (input : Bytes) : (pure a : Dialogue α) input = ⟨[], .done a input⟩ :=
  rfl

theorem say_apply (b input : Bytes) : say b input = ⟨[b], .done () input⟩ := rfl

theorem bind_apply (p : Dialogue α) (next : α → Dialogue β) (input : Bytes) :
    (p >>= next) input = goOn next (p input) := rfl

theorem bind_done {p : Dialogue α} {next : α → Dialogue β} {input rest : Bytes} {a : α}
    {said : List Bytes} (h : p input = ⟨said, .done a rest⟩) :
    (p >>= next) input = ⟨said ++ (next a rest).said, (next a rest).close⟩ := by
  rw [bind_apply, h]
  rfl

theorem bind_failed {p : Dialogue α} {next : α → Dialogue β} {input rest : Bytes}
    {failure : Failure} {said : List Bytes} (h : p input = ⟨said, .failed failure rest⟩) :
    (p >>= next) input = ⟨said, .failed failure rest⟩ := by
  rw [bind_apply, h]
  rfl

theorem bind_waiting {p : Dialogue α} {next : α → Dialogue β} {input : Bytes}
    (h : (p input).close = .waiting) : (p >>= next) input = ⟨(p input).said, .waiting⟩ := by
  rw [bind_apply, goOn, h]

theorem bind_eq_done {p : Dialogue α} {next : α → Dialogue β} {input rest : Bytes} {b : β}
    {said : List Bytes} (h : (p >>= next) input = ⟨said, .done b rest⟩) :
    ∃ a first between second, p input = ⟨first, .done a between⟩ ∧
      next a between = ⟨second, .done b rest⟩ ∧ said = first ++ second := by
  rcases first : p input with ⟨words, ⟨a, between⟩ | ⟨failure, between⟩ | _⟩
  · rw [bind_done first] at h
    obtain ⟨rfl, close⟩ := Course.mk.inj h
    exact ⟨a, words, between, _, rfl, by rw [← close], rfl⟩
  · rw [bind_failed first] at h
    cases h
  · rw [bind_waiting (by rw [first])] at h
    cases h

/-- A sequence comes to its end when both parts do, one after the other. -/
theorem close_bind_done {p : Dialogue α} {next : α → Dialogue β} {input rest : Bytes} {b : β} :
    ((p >>= next) input).close = .done b rest ↔
      ∃ a between, (p input).close = .done a between ∧ (next a between).close = .done b rest := by
  rw [bind_apply, goOn]
  cases (p input).close with
  | done a between =>
    constructor
    · exact fun ended => ⟨a, between, rfl, ended⟩
    · rintro ⟨_, _, first, second⟩
      cases first
      exact second
  | failed failure between => exact iff_of_false nofun fun ⟨_, _, first, _⟩ => nomatch first
  | waiting => exact iff_of_false nofun fun ⟨_, _, first, _⟩ => nomatch first

/-- It fails when the first part does, or the second behind it. -/
theorem close_bind_failed {p : Dialogue α} {next : α → Dialogue β} {input rest : Bytes}
    {failure : Failure} : ((p >>= next) input).close = .failed failure rest ↔
      (p input).close = .failed failure rest ∨
      ∃ a between, (p input).close = .done a between ∧
        (next a between).close = .failed failure rest := by
  rw [bind_apply, goOn]
  cases (p input).close with
  | done a between =>
    constructor
    · exact fun ended => .inr ⟨a, between, rfl, ended⟩
    · rintro (first | ⟨_, _, first, second⟩)
      · cases first
      · cases first
        exact second
  | failed f between =>
    constructor
    · intro ended
      cases ended
      exact .inl rfl
    · rintro (first | ⟨_, _, first, -⟩)
      · cases first
        rfl
      · cases first
  | waiting =>
    refine iff_of_false nofun ?_
    rintro (first | ⟨_, _, first, -⟩) <;> cases first

theorem said_prefix_bind (p : Dialogue α) (next : α → Dialogue β) (input : Bytes) :
    (p input).said <+: ((p >>= next) input).said := by
  rw [bind_apply, goOn]
  cases (p input).close with
  | done a rest => exact List.prefix_append ..
  | failed failure rest => exact List.prefix_refl _
  | waiting => exact List.prefix_refl _

@[simp] theorem pure_bind (a : α) (next : α → Dialogue β) : (pure a >>= next) = next a := by
  funext input
  rw [bind_apply, pure_apply]
  rfl

@[simp] theorem bind_pure (p : Dialogue α) : (p >>= pure) = p := by
  funext input
  rw [bind_apply, goOn]
  rcases h : p input with ⟨said, _ | _ | _⟩
  · simp [pure_apply]
  · rfl
  · rfl

theorem bind_assoc (p : Dialogue α) (next : α → Dialogue β) (last : β → Dialogue γ) :
    (p >>= next >>= last) = p >>= fun a => next a >>= last := by
  funext input
  simp only [bind_apply, goOn]
  cases (p input).close with
  | done a rest =>
    dsimp only
    cases (next a rest).close with
    | done b rest' => simp
    | failed failure rest' => rfl
    | waiting => rfl
  | failed failure rest => rfl
  | waiting => rfl

theorem bind_pure_apply (p : Dialogue α) (f : α → β) (input : Bytes) :
    (p >>= fun a => pure (f a)) input = ⟨(p input).said, (p input).close.map f⟩ := by
  rw [bind_apply, goOn]
  cases (p input).close with
  | done a rest => simp [pure_apply, Close.map]
  | failed failure rest => rfl
  | waiting => rfl

@[simp] theorem said_mapFailure (g : Failure → Failure) (p : Dialogue α) (input : Bytes) :
    (mapFailure g p input).said = (p input).said := by
  unfold mapFailure
  split <;> rfl

theorem mapFailure_bind (g : Failure → Failure) (p : Dialogue α) (next : α → Dialogue β) :
    mapFailure g (p >>= next) = mapFailure g p >>= fun a => mapFailure g (next a) := by
  funext input
  simp only [mapFailure, bind_apply, goOn]
  rcases h : p input with ⟨said, _ | _ | _⟩
  · next a rest =>
    dsimp only
    cases h' : (next a rest).close <;> simp only [h']
  · rfl
  · rfl

theorem mapFailure_mapFailure (g h : Failure → Failure) (p : Dialogue α) :
    mapFailure g (mapFailure h p) = mapFailure (fun failure => g (h failure)) p := by
  funext input
  simp only [mapFailure]
  rcases p input with ⟨said, _ | _ | _⟩ <;> rfl

/-! ## What can be said -/

/-- Dialogues that say nothing but what is allowed. -/
def SaysOnly (allowed : Bytes → Prop) (p : Dialogue α) : Prop :=
  ∀ input, ∀ b ∈ (p input).said, allowed b

theorem SaysOnly.bind {allowed : Bytes → Prop} {p : Dialogue α} {next : α → Dialogue β}
    (hp : p.SaysOnly allowed) (hnext : ∀ a, (next a).SaysOnly allowed) :
    SaysOnly allowed (p >>= next) := by
  intro input b mem
  rw [bind_apply, goOn] at mem
  cases close : (p input).close with
  | done a rest =>
    rw [close] at mem
    rcases List.mem_append.mp mem with first | second
    · exact hp input b first
    · exact hnext a rest b second
  | failed failure rest =>
    rw [close] at mem
    exact hp input b mem
  | waiting =>
    rw [close] at mem
    exact hp input b mem

theorem SaysOnly.of_mute {allowed : Bytes → Prop} {p : Dialogue α}
    (h : ∀ input, (p input).said = []) : p.SaysOnly allowed := by
  intro input b mem
  rw [h input] at mem
  exact absurd mem List.not_mem_nil

theorem SaysOnly.pure {allowed : Bytes → Prop} (a : α) :
    SaysOnly allowed (Pure.pure a : Dialogue α) := .of_mute fun _ => rfl

theorem SaysOnly.fail {allowed : Bytes → Prop} (failure : Failure) :
    SaysOnly allowed (fail failure : Dialogue α) := .of_mute fun _ => rfl

theorem SaysOnly.ofExcept {allowed : Bytes → Prop} (result : Except Failure α) :
    SaysOnly allowed (ofExcept result) := by
  cases result with
  | ok a => exact .pure a
  | error failure => exact .fail failure

theorem saysOnly_say {allowed : Bytes → Prop} {b : Bytes} (h : allowed b) :
    SaysOnly allowed (say b) := by
  intro input c mem
  rw [List.mem_singleton.mp mem]
  exact h

/-! ## How it can fail -/

/-- Dialogues that fail only as allowed. -/
def FailsOnly (allowed : Failure → Prop) (p : Dialogue α) : Prop :=
  ∀ ⦃input failure rest⦄, (p input).close = .failed failure rest → allowed failure

section

variable {allowed : Failure → Prop}

theorem FailsOnly.bind {p : Dialogue α} {next : α → Dialogue β} (hp : p.FailsOnly allowed)
    (hnext : ∀ a, (next a).FailsOnly allowed) : FailsOnly allowed (p >>= next) := by
  intro input failure rest ending
  rw [bind_apply, goOn] at ending
  cases first : (p input).close with
  | done a rest' =>
    rw [first] at ending
    exact hnext a ending
  | failed f rest' =>
    rw [first] at ending
    cases ending
    exact hp first
  | waiting =>
    rw [first] at ending
    cases ending

theorem FailsOnly.pure (a : α) : FailsOnly allowed (Pure.pure a : Dialogue α) :=
  fun _ _ _ ending => nomatch ending

theorem failsOnly_say (b : Bytes) : FailsOnly allowed (say b) := fun _ _ _ ending => nomatch ending

theorem failsOnly_fail {failure : Failure} (h : allowed failure) :
    FailsOnly allowed (fail failure : Dialogue α) := by
  intro input f rest ending
  cases ending
  exact h

theorem FailsOnly.mono {allowed' : Failure → Prop} {p : Dialogue α} (hp : p.FailsOnly allowed)
    (h : ∀ failure, allowed failure → allowed' failure) : p.FailsOnly allowed' :=
  fun _ failure _ ending => h failure (hp ending)

end

/-! ## Up to the causes of failures -/

/-- A dialogue with the causes of its failures blotted out. -/
def blot (p : Dialogue α) : Dialogue α := mapFailure (fun _ => .emptyImage) p

/-- Dialogues that differ at most in the causes of their failures. -/
def Alike (p q : Dialogue α) : Prop := blot p = blot q

theorem Alike.refl (p : Dialogue α) : Alike p p := Eq.refl _

theorem Alike.bind {p q : Dialogue α} {next next' : α → Dialogue β} (h : Alike p q)
    (h' : ∀ a, Alike (next a) (next' a)) : Alike (p >>= next) (q >>= next') := by
  have same : (fun a => blot (next a)) = fun a => blot (next' a) := funext h'
  unfold Alike blot at *
  rw [mapFailure_bind, mapFailure_bind, h, same]

theorem alike_fail (failure failure' : Failure) :
    Alike (fail failure : Dialogue α) (fail failure') := rfl

theorem alike_mapFailure (g : Failure → Failure) (p : Dialogue α) : Alike (mapFailure g p) p :=
  mapFailure_mapFailure _ g p

/-- They say the same, -/
theorem Alike.said {p q : Dialogue α} (h : Alike p q) (input : Bytes) :
    (p input).said = (q input).said := by
  have both := congrArg Course.said (congrFun h input)
  rwa [blot, blot, said_mapFailure, said_mapFailure] at both

theorem blot_eq_done {p : Dialogue α} {input rest : Bytes} {said : List Bytes} {a : α} :
    blot p input = ⟨said, .done a rest⟩ ↔ p input = ⟨said, .done a rest⟩ := by
  rw [blot, mapFailure]
  rcases p input with ⟨said, _ | _ | _⟩ <;> simp

/-- and come to an end together. -/
theorem Alike.done {p q : Dialogue α} (h : Alike p q) {input rest : Bytes} {said : List Bytes}
    {a : α} (ended : p input = ⟨said, .done a rest⟩) : q input = ⟨said, .done a rest⟩ := by
  rw [← blot_eq_done] at ended ⊢
  rw [← ended]
  exact (congrFun h input).symm

end Dialogue
end SerialIsp
