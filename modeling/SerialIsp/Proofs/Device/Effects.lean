import SerialIsp.Proofs.Device.Replay
import SerialIsp.Proofs.Wire.Lines

/-!
# What each task does to a device

One lemma for each kind of task, and from them what the clearing of all sectors and the
writing of all blocks do. A task that comes to its end has one effect, however often a frame
had to be sent and whichever sectors were found blank.
-/

namespace SerialIsp

open Wire

variable {part : Part} {d : Device}

/-! ## Commands -/

namespace Dialogue

theorem listening_answer (c : Command) : Listening (Device.answer c) := by
  refine listening_status.bind fun st => ?_
  dsimp only
  split
  · exact listening_number.bind fun _ => listening_number.bind fun _ => .pure _
  · exact .pure _

end Dialogue

namespace Leads

/-- A command that has to succeed has its effect. -/
theorem command {c : Command} (idle : d.incoming = none) (other : c.kind ≠ .blankCheck) :
    Leads part (Dialogue.command c) d fun _ => d.obey part c := by
  intro input said a rest ended _
  -- one write, which the replay reads as the command it was written for
  obtain rfl : [c.line] = said := by rw [← Dialogue.said_command c input, ended]
  have close := Dialogue.command_done (congrArg Course.close ended)
  have answered : (Device.answer c input).close = .done (.known .cmdSuccess) rest := by
    have status : Device.answer c = Dialogue.status := by
      unfold Device.answer
      simp only [other, false_and, ↓reduceIte]
      exact Dialogue.bind_pure _
    rw [status, close]
  show Device.hear part (d, input) c.line = _
  simp only [Device.hear, idle, Command.read?_line, answered, Status.isSuccess, ↓reduceIte]

/-- A look at a sector leaves it to be erased, unless it is blank. -/
theorem look (sector : UInt32) (idle : d.incoming = none) :
    Leads part (do
      Dialogue.say (Command.blankCheck sector sector).line
      Device.answer (.blankCheck sector sector)) d fun status =>
        if status.isSuccess then
          { d with memory := d.memory.erase part sector.toNat sector.toNat }
        else d := by
  obtain ⟨m, incoming⟩ := d
  obtain rfl : incoming = none := idle
  intro input said st rest ended honest
  rw [Dialogue.bind_done (rfl : Dialogue.say _ input = _),
    (Dialogue.listening_answer _).mute] at ended
  obtain ⟨rfl, close⟩ := Course.mk.inj ended
  show Device.hear part (⟨m, none⟩, input) (Command.blankCheck sector sector).line = _
  simp only [Device.hear, Command.read?_line, close]
  cases success : st.isSuccess with
  | false => rfl
  | true =>
    -- here the answer was that the sector is blank, and an honest device says so of none other
    have blank : m.isBlank part sector.toNat sector.toNat = true := by
      simpa [Device.truthful, Device.honest, Command.read?_line, close, success] using honest
    simp only [↓reduceIte, Memory.erase_of_isBlank blank]
    rfl

theorem clear_course_eq (sector : UInt32) : (Task.clear sector).course = (do
    let status ← (do
      Dialogue.say (Command.blankCheck sector sector).line
      Device.answer (.blankCheck sector sector))
    match status with
    | .known .cmdSuccess => return ()
    | .known .sectorNotBlank =>
      Dialogue.command (.prepareForWrite sector sector)
      Dialogue.command (.erase sector sector)
    | status => Dialogue.fail (.refused .blankCheck status)) := by
  simp only [Task.course, Dialogue.commandStatus, Device.answer, Dialogue.bind_assoc]
  refine congrArg (Dialogue.say _ >>= ·) (funext fun _ => ?_)
  refine congrArg (Dialogue.status >>= ·) (funext fun status => ?_)
  cases status with
  | known code =>
    cases code with
    | sectorNotBlank =>
      simp only [Command.kind, and_self, ↓reduceIte, Dialogue.bind_assoc, Dialogue.pure_bind]
    | _ => rfl
  | unknown n => rfl

theorem clear (sector : UInt32) (idle : d.incoming = none) :
    Leads part (Task.clear sector).course d fun _ =>
      { d with memory := d.memory.erase part sector.toNat sector.toNat } := by
  rw [clear_course_eq]
  refine (look sector idle).bind fun status => ?_
  cases status with
  | known code =>
    cases code with
    | cmdSuccess => exact .pure ()
    | sectorNotBlank =>
      refine (command idle (by simp [Command.kind])).bind fun _ => ?_
      exact command idle (by simp [Command.kind])
    | _ => exact .fail _
  | unknown n => exact .fail _

/-! ## Transfers -/

theorem unpack_blockFrame {transfer : Transfer} {b : Bytes}
    (length : b.length = min transfer.left blockCapacity) :
    Device.unpack transfer (blockFrame b) = b := by
  rw [Device.unpack, blockFrame, ← length, ← length_encode, List.take_left, decode_encode]

theorem sendFrame {transfer : Transfer} {b : Bytes} (lines : part.encoding = .lines)
    (busy : d.incoming = some transfer) (length : b.length = min transfer.left blockCapacity) :
    Leads part (Dialogue.sendFrame (blockFrame b)) d fun taken =>
      if taken.isSome then d.accept transfer b else d := by
  intro input said taken rest ended _
  obtain ⟨_, words, mid, words', first, second, rfl⟩ := Dialogue.bind_eq_done ended
  obtain ⟨reply, words₁, mid', words₂, heard, last, rfl⟩ := Dialogue.bind_eq_done second
  cases first
  cases last
  have mute := Dialogue.listening_line.mute input
  rw [heard] at mute
  obtain rfl : words₁ = [] := mute
  show Device.hear part (d, input) (blockFrame b) = _
  simp only [Device.hear, busy, lines, heard, unpack_blockFrame length]
  by_cases ok : reply = Session.okReply
  · rw [if_pos ok, if_pos ok]
    rfl
  · rw [if_neg ok, if_neg ok]
    rfl

/-- However often a frame has to be sent, its block is stored once. -/
theorem frame {transfer : Transfer} {b : Bytes} (number : Nat) (lines : part.encoding = .lines)
    (busy : d.incoming = some transfer) (length : b.length = min transfer.left blockCapacity) :
    Leads part (Task.frame number b).course d fun _ => d.accept transfer b := by
  have sendings (resends : Nat) :
      Leads part (Dialogue.untilArrived number (Dialogue.sendFrame (blockFrame b))
        (Pure.pure ()) resends) d fun _ => d.accept transfer b := by
    induction resends with
    | zero =>
      rw [Dialogue.untilArrived]
      refine (sendFrame lines busy length).bind fun taken => ?_
      cases taken with
      | some _ => exact .pure ()
      | none => exact .fail _
    | succ left ih =>
      rw [Dialogue.untilArrived]
      refine (sendFrame lines busy length).bind fun taken => ?_
      cases taken with
      | some _ => exact .pure ()
      | none => exact ih
  exact sendings maxResends

theorem payload {transfer : Transfer} {b : Bytes} (raw : part.encoding = .raw)
    (busy : d.incoming = some transfer) :
    Leads part (Task.payload b).course d fun _ => d.accept transfer b := by
  intro input said _ rest ended _
  cases ended
  show Device.hear part (d, input) b = _
  simp only [Device.hear, busy, raw]

/-- **All frames of a block** bring it into RAM as a whole. -/
theorem frames (lines : part.encoding = .lines) (m : Memory) (address number : Nat) {b : Bytes}
    (ne : b ≠ []) :
    Leads part (perform ((Bytes.chunks blockCapacity b).mapIdx fun i c => .frame (number + i) c))
      ⟨m, some ⟨address, b.length⟩⟩ fun _ => ⟨m.store address b, none⟩ := by
  have pos := blockCapacity_pos
  induction b using Bytes.chunks_induction pos generalizing m address number with
  | nil => exact absurd rfl ne
  | step b _ ih =>
    have length : (b.take blockCapacity).length = min b.length blockCapacity := by
      rw [List.length_take, Nat.min_comm]
    rw [Bytes.chunks_of_ne_nil pos ne, List.mapIdx_cons, perform]
    refine (frame number lines rfl length).bind fun _ => ?_
    -- the last frame ends the transfer, and any other one moves it on
    by_cases last : b.length ≤ blockCapacity
    · rw [List.take_of_length_le last, List.drop_of_length_le last, Bytes.chunks_nil, Device.accept,
        if_pos (Nat.le_refl _)]
      exact .pure ()
    · have first : (b.take blockCapacity).length = blockCapacity := by omega
      have rest := ih (m.store address (b.take blockCapacity))
        (address + (b.take blockCapacity).length) (number + 1) (by
          rw [ne_eq, List.drop_eq_nil_iff]
          exact last)
      rw [Memory.store_store, List.take_append_drop, List.length_drop, first] at rest
      rw [Device.accept, if_neg (show ¬ b.length ≤ (b.take blockCapacity).length by omega), first]
      simp only [Nat.add_right_comm number 1] at rest
      exact rest

theorem staging {b : Bytes} (m : Memory) (address : Nat) (ne : b ≠ []) :
    Leads part (perform (SerialIsp.staging part.encoding b)) ⟨m, some ⟨address, b.length⟩⟩
      fun _ => ⟨m.store address b, none⟩ := by
  unfold SerialIsp.staging
  cases encoding : part.encoding with
  | raw =>
    dsimp only
    rw [perform_singleton]
    have whole := payload (b := b) (d := ⟨m, some ⟨address, b.length⟩⟩) encoding rfl
    rwa [Device.accept, if_pos (Nat.le_refl _)] at whole
  | lines =>
    have whole := frames encoding m address 0 ne
    simp only [Nat.zero_add] at whole
    exact whole

/-! ## The schedule -/

theorem blockTasks {plan : Plan} (geometry : part.checkGeometry = .ok ()) (fits : plan.Fits part)
    {index : Nat} (h : index < plan.count) (m : Memory) :
    Leads part (perform (SerialIsp.blockTasks part plan index)) ⟨m, none⟩ fun _ =>
      ⟨(m.store part.ramBufferAddress.toNat
          (Bytes.piece plan.blockSize.toNat plan.data index)).copy
        (part.flashBase.toNat + index * plan.blockSize.toNat) part.ramBufferAddress.toNat
        plan.blockSize.toNat, none⟩ := by
  have length := fits.length_piece h
  have ne : Bytes.piece plan.blockSize.toNat plan.data index ≠ [] := by
    rw [← List.length_pos_iff, length]
    exact fits.blockSize_pos
  have address : (part.flashBase.toNat + index * plan.blockSize.toNat).toUInt32.toNat =
      part.flashBase.toNat + index * plan.blockSize.toNat :=
    UInt32.toNat_ofNat_of_lt' (fits.offset_lt geometry h).2
  have staged : Leads part _ _ _ := staging m part.ramBufferAddress.toNat ne
  rw [length] at staged
  rw [SerialIsp.blockTasks, perform_append, perform_append, perform_singleton, perform,
    perform_singleton, Dialogue.bind_assoc, Dialogue.bind_assoc]
  refine (command rfl (by simp [Command.kind])).bind fun _ => ?_
  refine (command rfl (by simp [Command.kind])).bind fun _ => ?_
  refine staged.bind fun _ => ?_
  have copied : Leads part _ ⟨m.store part.ramBufferAddress.toNat
      (Bytes.piece plan.blockSize.toNat plan.data index), none⟩ _ :=
    command (c := .copyRamToFlash (part.flashBase.toNat + index * plan.blockSize.toNat).toUInt32
      part.ramBufferAddress plan.blockSize) rfl (by simp [Command.kind])
  rwa [Device.obey, address] at copied

theorem clearing (m : Memory) :
    Leads part (perform (SerialIsp.clearing part)) ⟨m, none⟩ fun _ =>
      ⟨m.eraseFirst part part.flashSectors.toNat, none⟩ := by
  have sectors (n : Nat) (le : n ≤ part.flashSectors.toNat) :
      Leads part (perform ((List.range n).map fun s => .clear s.toUInt32)) ⟨m, none⟩ fun _ =>
        ⟨m.eraseFirst part n, none⟩ := by
    induction n with
    | zero => exact .pure ()
    | succ n ih =>
      have sector : n.toUInt32.toNat = n :=
        UInt32.toNat_ofNat_of_lt' (Nat.lt_of_lt_of_le le (Nat.le_of_lt part.flashSectors.toNat_lt))
      rw [List.range_succ, List.map_append, perform_append, List.map_singleton, perform_singleton]
      refine (ih (by omega)).bind fun _ => ?_
      have cleared : Leads part _ ⟨m.eraseFirst part n, none⟩ _ := clear n.toUInt32 rfl
      rwa [sector] at cleared
  exact (command rfl (by simp [Command.kind])).bind fun _ => sectors _ (Nat.le_refl _)

theorem writing {plan : Plan} (geometry : part.checkGeometry = .ok ()) (fits : plan.Fits part)
    (m : Memory) :
    Leads part (perform (SerialIsp.writing part plan)) ⟨m, none⟩ fun _ =>
      ⟨m.programFirst part.flashBase.toNat part.ramBufferAddress.toNat plan.blockSize.toNat
        plan.data plan.count, none⟩ := by
  have blocks (n : Nat) (le : n ≤ plan.count) :
      Leads part (perform ((List.range n).flatMap (SerialIsp.blockTasks part plan))) ⟨m, none⟩
        fun _ => ⟨m.programFirst part.flashBase.toNat part.ramBufferAddress.toNat
          plan.blockSize.toNat plan.data n, none⟩ := by
    induction n with
    | zero => exact .pure ()
    | succ n ih =>
      rw [List.range_succ, List.flatMap_append, perform_append, List.flatMap_singleton]
      exact (ih (by omega)).bind fun _ => blockTasks geometry fits le _
  exact blocks plan.count (Nat.le_refl _)

end Leads
end SerialIsp
