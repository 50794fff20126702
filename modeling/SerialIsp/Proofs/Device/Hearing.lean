import SerialIsp.Proofs.Device.Content

/-!
# Commands as a device hears them

Whether a write is a command depends on where it stands. A device that waits for the rest of a
transfer takes whatever comes for data, also where the bytes would read as a command line. So
the commands of a run are not to be found in single writes, only by following the device
through all of them (`Device.heard`).

A rule for commands says which of them are proper behind those that were given before.
`Keeps` is what a dialogue owes to a rule whatever it hears, in a course that fails or waits as
well as in one that comes to its end. `Orderly` adds what is known in the end, so that the next
dialogue can go on from there. Nothing here needs an honest device: the memory has no say in
what is heard.
-/

namespace SerialIsp

open Wire

/-! ## Hearing -/

/-- The transfer that a command announces. -/
def Wire.Command.announced : Command → Option Transfer
  | .writeToRam address size => some ⟨address.toNat, size.toNat⟩
  | _ => none

/-- What is still to come of a transfer after its next bytes. -/
def Transfer.behind (transfer : Transfer) (b : Bytes) : Option Transfer :=
  if transfer.left ≤ b.length then none
  else some ⟨transfer.address + b.length, transfer.left - b.length⟩

theorem Dialogue.said_sendFrame (frame input : Bytes) :
    (sendFrame frame input).said = [frame] := by
  rw [sendFrame, bind_done (rfl : say frame input = _), bind_pure_apply, listening_line.mute]
  rfl

namespace Device

/-- The command a write is to a device, unless it belongs to a transfer. -/
def order? (d : Device) (message : Bytes) : Option Command :=
  match d.incoming with
  | none => Command.read? message
  | some _ => none

/-- **The commands a device hears** in some writes. -/
def heard (part : Part) : Device × Bytes → List Bytes → List Command
  | _, [] => []
  | d, message :: rest => (d.1.order? message).toList ++ heard part (hear part d message) rest

variable {part : Part}

theorem heard_append (d : Device × Bytes) (xs ys : List Bytes) :
    heard part d (xs ++ ys) = heard part d xs ++ heard part (replay part d xs) ys := by
  induction xs generalizing d with
  | nil => rfl
  | cons x xs ih =>
    rw [List.cons_append, heard, heard, ih, List.append_assoc]
    rfl

theorem heard_prefix (d : Device × Bytes) {xs ys : List Bytes} (h : xs <+: ys) :
    heard part d xs <+: heard part d ys := by
  obtain ⟨zs, rfl⟩ := h
  rw [heard_append]
  exact List.prefix_append ..

theorem heard_line (m : Memory) (answers : Bytes) (c : Command) :
    heard part (⟨m, none⟩, answers) [c.line] = [c] := by
  simp [heard, order?, Command.read?_line]

theorem truthful_line (m : Memory) (answers : Bytes) {c : Command}
    (other : c.kind ≠ .blankCheck) : truthful part (⟨m, none⟩, answers) [c.line] = true := by
  simp only [truthful, honest, Command.read?_line, Bool.and_true]
  cases c with
  | blankCheck first last => exact absurd rfl other
  | _ => rfl

theorem incoming_obey (m : Memory) (c : Command) :
    (obey part ⟨m, none⟩ c).incoming = c.announced := by
  cases c <;> rfl

theorem eq_of_mem_heard_reading {m : Memory} {address count : UInt32} {messages : List Bytes}
    (reading : ∀ message ∈ messages, Dialogue.Reading address count message) {answers : Bytes}
    {c : Command} (h : c ∈ heard part (⟨m, none⟩, answers) messages) :
    c = .readMemory address count := by
  induction messages generalizing answers with
  | nil => cases h
  | cons message rest ih =>
    have first := reading message List.mem_cons_self
    have idle : hear part (⟨m, none⟩, answers) message =
        (⟨m, none⟩, (hear part (⟨m, none⟩, answers) message).2) :=
      Prod.ext (hear_reading rfl first) rfl
    rw [heard, idle, List.mem_append] at h
    rcases h with here | later
    · -- the answers that take a block, or ask for it again, do not read as commands
      rcases first with rfl | rfl | rfl
      · simpa [order?, Command.read?_line] using here
      · simp [order?, show Command.read? blockTaken = none by decide] at here
      · simp [order?, show Command.read? blockWanted = none by decide] at here
    · exact ih (fun message mem => reading message (List.mem_cons_of_mem _ mem)) later

end Device

/-! ## Rules -/

/-- A rule: which commands are proper behind those that were given. -/
abbrev Rule : Type := List Command → Command → Prop

/-- Each of some commands is proper behind those before it. -/
def InOrder (proper : Rule) : (given cs : List Command) → Prop
  | _, [] => True
  | given, c :: cs => proper given c ∧ InOrder proper (given ++ [c]) cs

namespace InOrder

variable {proper : Rule} {given cs ds : List Command}

theorem append_iff : InOrder proper given (cs ++ ds) ↔
    InOrder proper given cs ∧ InOrder proper (given ++ cs) ds := by
  induction cs generalizing given with
  | nil => simp [InOrder]
  | cons c cs ih =>
    rw [List.cons_append, InOrder, InOrder, ih, and_assoc, List.append_assoc]
    rfl

theorem of_prefix (h : InOrder proper given ds) (le : cs <+: ds) : InOrder proper given cs := by
  obtain ⟨rest, rfl⟩ := le
  exact (append_iff.mp h).1

theorem of_forall (h : ∀ c ∈ cs, ∀ given, proper given c) : InOrder proper given cs := by
  induction cs generalizing given with
  | nil => trivial
  | cons c cs ih =>
    exact ⟨h c List.mem_cons_self _, ih fun c mem => h c (List.mem_cons_of_mem _ mem)⟩

theorem proper_of_split (h : InOrder proper given cs) {pre post : List Command} {c : Command}
    (split : cs = pre ++ c :: post) : proper (given ++ pre) c := by
  rw [split, append_iff] at h
  exact h.2.1

end InOrder

/-! ## Dialogues that keep to a rule -/

section

variable {α β : Type}

/-- **Whatever it hears**, the dialogue gives only proper commands to a device behind those
    that were given before. -/
def Keeps (part : Part) (proper : Rule) (p : Dialogue α) (incoming : Option Transfer)
    (given : List Command) : Prop :=
  ∀ m input, InOrder proper given (Device.heard part (⟨m, incoming⟩, input) (p input).said)

/-- The dialogue keeps to the rule, and this is known where it comes to its end: of its value,
    of the transfer that is going on then, and of all commands given so far. -/
structure Orderly (part : Part) (proper : Rule) (p : Dialogue α) (incoming : Option Transfer)
    (given : List Command) (after : α → Option Transfer → List Command → Prop) : Prop where
  keeps : Keeps part proper p incoming given
  ends : ∀ m input said a rest, p input = ⟨said, .done a rest⟩ →
    ∃ d, Device.replay part (⟨m, incoming⟩, input) said = (d, rest) ∧
      after a d.incoming (given ++ Device.heard part (⟨m, incoming⟩, input) said)

variable {part : Part} {proper : Rule} {incoming : Option Transfer} {given : List Command}

theorem Keeps.of_alike {p q : Dialogue α} (alike : Dialogue.Alike p q)
    (h : Keeps part proper q incoming given) : Keeps part proper p incoming given := by
  intro m input
  rw [alike.said]
  exact h m input

theorem Keeps.pure (a : α) : Keeps part proper (Pure.pure a) incoming given :=
  fun _ _ => trivial

theorem Keeps.bind {p : Dialogue α} {next : α → Dialogue β}
    {between : α → Option Transfer → List Command → Prop}
    (first : Orderly part proper p incoming given between)
    (second : ∀ a i g, between a i g → Keeps part proper (next a) i g) :
    Keeps part proper (p >>= next) incoming given := by
  intro m input
  have kept := first.keeps m input
  rcases course : p input with ⟨said, ⟨a, rest⟩ | ⟨failure, rest⟩ | _⟩
  all_goals rw [course] at kept
  · obtain ⟨d, replayed, known⟩ := first.ends m input said a rest course
    rw [Dialogue.bind_done course, Device.heard_append, replayed, InOrder.append_iff]
    exact ⟨kept, second a _ _ known d.memory rest⟩
  -- what fails or waits has nothing more to say, and kept to the rule so far
  · rw [Dialogue.bind_failed course]
    exact kept
  · rw [Dialogue.bind_waiting (by rw [course]), course]
    exact kept

namespace Orderly

variable {after after' : α → Option Transfer → List Command → Prop}

theorem pure {a : α} (h : after a incoming given) :
    Orderly part proper (Pure.pure a) incoming given after where
  keeps _ _ := trivial
  ends m input said a' rest ended := by
    cases ended
    refine ⟨_, rfl, ?_⟩
    rw [Device.heard, List.append_nil]
    exact h

theorem fail (failure : Failure) :
    Orderly part proper (Dialogue.fail failure : Dialogue α) incoming given after where
  keeps _ _ := trivial
  ends _ _ _ _ _ ended := nomatch ended

theorem of_alike {p q : Dialogue α} (alike : Dialogue.Alike p q)
    (h : Orderly part proper q incoming given after) :
    Orderly part proper p incoming given after where
  keeps := h.keeps.of_alike alike
  ends m input said a rest ended := h.ends m input said a rest (alike.done ended)

theorem mono {p : Dialogue α} (h : Orderly part proper p incoming given after)
    (weaker : ∀ a i g, after a i g → after' a i g) :
    Orderly part proper p incoming given after' where
  keeps := h.keeps
  ends m input said a rest ended := by
    obtain ⟨d, replayed, known⟩ := h.ends m input said a rest ended
    exact ⟨d, replayed, weaker _ _ _ known⟩

theorem bind {p : Dialogue α} {next : α → Dialogue β}
    {between : α → Option Transfer → List Command → Prop}
    {after : β → Option Transfer → List Command → Prop}
    (first : Orderly part proper p incoming given between)
    (second : ∀ a i g, between a i g → Orderly part proper (next a) i g after) :
    Orderly part proper (p >>= next) incoming given after where
  keeps := .bind first fun a i g known => (second a i g known).keeps
  ends m input said b rest ended := by
    obtain ⟨a, words, mid, words', here, there, rfl⟩ := Dialogue.bind_eq_done ended
    obtain ⟨d, replayed, known⟩ := first.ends m input words a mid here
    obtain ⟨d', replayed', known'⟩ := (second a _ _ known).ends d.memory mid words' b rest there
    refine ⟨d', ?_, ?_⟩
    · rw [Device.replay_append, replayed]
      exact replayed'
    · rw [Device.heard_append, replayed, ← List.append_assoc]
      exact known'

/-! ## Commands -/

theorem command {c : Command} (h : proper given c) (other : c.kind ≠ .blankCheck) :
    Orderly part proper (Dialogue.command c) none given fun _ i g =>
      i = c.announced ∧ g = given ++ [c] where
  keeps m input := by
    rw [Dialogue.said_command, Device.heard_line]
    exact ⟨h, trivial⟩
  ends m input said a rest ended := by
    obtain rfl : [c.line] = said := by rw [← Dialogue.said_command c input, ended]
    have obeys : Leads part (Dialogue.command c) ⟨m, none⟩ _ := Leads.command rfl other
    have obeyed := obeys input _ a rest ended (Device.truthful_line m input other)
    refine ⟨_, obeyed, Device.incoming_obey m c, ?_⟩
    rw [Device.heard_line]

theorem look {sector : UInt32} (h : proper given (.blankCheck sector sector)) :
    Orderly part proper (do
      Dialogue.say (Command.blankCheck sector sector).line
      Device.answer (.blankCheck sector sector)) none given fun _ i g =>
        i = none ∧ g = given ++ [.blankCheck sector sector] where
  keeps m input := by
    rw [Dialogue.bind_done (rfl : Dialogue.say _ input = _),
      (Dialogue.listening_answer _).mute, List.append_nil, Device.heard_line]
    exact ⟨h, trivial⟩
  ends m input said status rest ended := by
    rw [Dialogue.bind_done (rfl : Dialogue.say _ input = _),
      (Dialogue.listening_answer _).mute] at ended
    obtain ⟨rfl, close⟩ := Course.mk.inj ended
    -- to look changes nothing, so it makes no difference what was found
    refine ⟨⟨m, none⟩, ?_, rfl, ?_⟩
    · show Device.hear part (⟨m, none⟩, input) (Command.blankCheck sector sector).line = _
      simp only [Device.hear, Command.read?_line, close, Device.obey, ite_self]
    · rw [List.append_nil, Device.heard_line]

/-- A used sector is prepared and erased, and nothing else is done about a sector. -/
theorem clear {sector : UInt32} (looks : proper given (.blankCheck sector sector))
    (prepares : proper (given ++ [.blankCheck sector sector]) (.prepareForWrite sector sector))
    (erases : proper (given ++ [.blankCheck sector sector] ++ [.prepareForWrite sector sector])
      (.erase sector sector)) :
    Orderly part proper (Task.clear sector).course none given fun _ i g => i = none ∧
      (g = given ++ [.blankCheck sector sector] ∨
        g = given ++ [.blankCheck sector sector] ++ [.prepareForWrite sector sector] ++
          [.erase sector sector]) := by
  rw [Leads.clear_course_eq]
  refine (look looks).bind fun status i g known => ?_
  obtain ⟨rfl, rfl⟩ := known
  cases status with
  | known code =>
    cases code with
    | cmdSuccess => exact .pure ⟨rfl, .inl rfl⟩
    | sectorNotBlank =>
      refine (command prepares nofun).bind fun _ i g known => ?_
      obtain ⟨rfl, rfl⟩ := known
      refine (command erases nofun).mono fun _ i g known => ?_
      exact ⟨known.1, .inr known.2⟩
    | _ => exact .fail _
  | unknown n => exact .fail _

/-! ## Transfers -/

theorem sendFrame {transfer : Transfer} {b : Bytes} (lines : part.encoding = .lines)
    (length : b.length = min transfer.left blockCapacity) :
    Orderly part proper (Dialogue.sendFrame (blockFrame b)) (some transfer) given fun taken i g =>
      i = (if taken.isSome then transfer.behind b else some transfer) ∧ g = given where
  keeps m input := by
    rw [Dialogue.said_sendFrame]
    trivial
  ends m input said taken rest ended := by
    obtain rfl : [blockFrame b] = said := by rw [← Dialogue.said_sendFrame _ input, ended]
    have stores : Leads part (Dialogue.sendFrame (blockFrame b)) ⟨m, some transfer⟩ _ :=
      Leads.sendFrame lines rfl length
    refine ⟨_, stores input _ taken rest ended rfl, ?_, List.append_nil _⟩
    cases taken <;> rfl

theorem frame {transfer : Transfer} {b : Bytes} (number : Nat) (lines : part.encoding = .lines)
    (length : b.length = min transfer.left blockCapacity) :
    Orderly part proper (Task.frame number b).course (some transfer) given fun _ i g =>
      i = transfer.behind b ∧ g = given := by
  have sendings (resends : Nat) :
      Orderly part proper (Dialogue.untilArrived number (Dialogue.sendFrame (blockFrame b))
        (Pure.pure ()) resends) (some transfer) given fun _ i g =>
          i = transfer.behind b ∧ g = given := by
    induction resends with
    | zero =>
      rw [Dialogue.untilArrived]
      refine (sendFrame lines length).bind fun taken i g known => ?_
      cases taken with
      | some _ => exact .pure known
      | none => exact .fail _
    | succ left ih =>
      rw [Dialogue.untilArrived]
      refine (sendFrame lines length).bind fun taken i g known => ?_
      cases taken with
      | some _ => exact .pure known
      | none =>
        -- a frame that was not taken leaves the transfer where it was
        obtain ⟨rfl, rfl⟩ := known
        exact ih
  exact sendings maxResends

theorem frames (lines : part.encoding = .lines) (address number : Nat) {b : Bytes} (ne : b ≠ []) :
    Orderly part proper
      (perform ((Bytes.chunks blockCapacity b).mapIdx fun i c => .frame (number + i) c))
      (some ⟨address, b.length⟩) given fun _ i g => i = none ∧ g = given := by
  have pos := blockCapacity_pos
  induction b using Bytes.chunks_induction pos generalizing address number with
  | nil => exact absurd rfl ne
  | step b _ ih =>
    have length : (b.take blockCapacity).length = min b.length blockCapacity := by
      rw [List.length_take, Nat.min_comm]
    rw [Bytes.chunks_of_ne_nil pos ne, List.mapIdx_cons, perform]
    refine (frame number lines length).bind fun _ i g known => ?_
    obtain ⟨rfl, rfl⟩ := known
    by_cases last : b.length ≤ blockCapacity
    · rw [List.take_of_length_le last, List.drop_of_length_le last, Bytes.chunks_nil]
      exact .pure ⟨if_pos (Nat.le_refl _), rfl⟩
    · have first : (b.take blockCapacity).length = blockCapacity := by omega
      have rest := ih (address + (b.take blockCapacity).length) (number + 1) (by
        rw [ne_eq, List.drop_eq_nil_iff]
        exact last)
      rw [List.length_drop] at rest
      rw [Transfer.behind, if_neg (show ¬ b.length ≤ (b.take blockCapacity).length by omega), first]
      rw [first] at rest
      simp only [Nat.add_right_comm number 1] at rest
      exact rest

/-- **The block that was announced** ends the transfer, and none of it is heard as a command. -/
theorem staging {b : Bytes} (address : Nat) (ne : b ≠ []) :
    Orderly part proper (perform (SerialIsp.staging part.encoding b)) (some ⟨address, b.length⟩)
      given fun _ i g => i = none ∧ g = given := by
  unfold SerialIsp.staging
  cases encoding : part.encoding with
  | lines =>
    have whole : Orderly part proper _ _ given _ := frames encoding address 0 ne
    simp only [Nat.zero_add] at whole
    exact whole
  | raw =>
    dsimp only
    rw [perform_singleton]
    exact
      { keeps := fun _ _ => trivial
        ends := fun m input said a rest ended => by
          cases ended
          have stores : Leads part (Task.payload b).course ⟨m, some ⟨address, b.length⟩⟩ _ :=
            Leads.payload encoding rfl
          exact ⟨_, stores input _ () _ rfl rfl, if_pos (Nat.le_refl _), List.append_nil _⟩ }

end Orderly

/-! ## Reading -/

/-- A read of memory gives one command, whatever the blocks look like that come back. -/
theorem Keeps.of_reading {p : Dialogue α} {address count : UInt32}
    (spoken : p.SaysOnly (Dialogue.Reading address count))
    (h : ∀ given, proper given (.readMemory address count)) :
    Keeps part proper p none given := by
  intro m input
  refine .of_forall fun c mem => ?_
  rw [Device.eq_of_mem_heard_reading (spoken input) mem]
  exact h

end

end SerialIsp
