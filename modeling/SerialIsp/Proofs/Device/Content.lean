import SerialIsp.Proofs.Device.Effects

/-!
# What the flash holds in the end

A programming run that succeeds leaves the data of its plan in the flash, erased bytes behind
it, and everything outside of the flash alone. This is said of the device, not of the
programmer: of the memory that the replay of the run ends with, whatever it held before.
-/

namespace SerialIsp

open Wire

/-! ## Reading back does no harm -/

namespace Dialogue

/-- What may be said while memory is read. -/
def Reading (address count : UInt32) (b : Bytes) : Prop :=
  b = (Command.readMemory address count).line ∨ b = blockTaken ∨ b = blockWanted

theorem readBlock_saysOnly (address count : UInt32) (block length : Nat) :
    SaysOnly (Reading address count) (readBlock block length) := by
  have received : SaysOnly (Reading address count) (receiveBlock length) := by
    refine .bind (.of_mute (listening_take _).mute) fun lines => .bind ?_ fun sum => .pure _
    refine .of_mute fun input => ?_
    unfold orNone
    split
    all_goals exact listening_number.mute input
  have sendings (resends : Nat) : SaysOnly (Reading address count)
      (untilArrived block (receiveBlock length) (say blockWanted) resends) := by
    induction resends with
    | zero =>
      rw [untilArrived]
      refine received.bind fun b => ?_
      cases b with
      | some b => exact .pure b
      | none => exact .fail _
    | succ left ih =>
      rw [untilArrived]
      refine received.bind fun b => ?_
      cases b with
      | some b => exact .pure b
      | none => exact (saysOnly_say (.inr (.inr rfl))).bind fun _ => ih
  exact (sendings _).bind fun b => (saysOnly_say (.inr (.inl rfl))).bind fun _ => .pure b

theorem readBlocksFrom_saysOnly (address count : UInt32) (block left : Nat) :
    SaysOnly (Reading address count) (readBlocksFrom block left) := by
  induction left using Nat.strongRecOn generalizing block with
  | ind left ih =>
    rw [readBlocksFrom]
    split
    · exact .pure []
    · next more =>
      refine (readBlock_saysOnly _ _ _ _).bind fun b => ?_
      exact (ih _ (sub_block_lt more) _).bind fun _ => .pure _

theorem readMemory_saysOnly (address count : UInt32) (encoding : Encoding) :
    SaysOnly (Reading address count) (readMemory address count encoding) := by
  refine .bind (.ofExcept _) fun _ => .bind (.ofExcept _) fun _ => .bind ?_ fun _ => ?_
  · refine .bind ?_ fun st => ?_
    · exact (saysOnly_say (.inl rfl)).bind fun _ => .of_mute listening_status.mute
    · split
      · exact .pure ()
      · exact .fail _
  · cases encoding with
    | raw => exact .of_mute (listening_take _).mute
    | lines => exact readBlocksFrom_saysOnly _ _ _ _

theorem readBack_saysOnly (address : UInt32) (expected : Bytes) (encoding : Encoding) :
    SaysOnly (Reading address expected.length.toUInt32)
      (Task.readBack address expected encoding).course := by
  refine (readMemory_saysOnly _ _ _).bind fun actual => ?_
  split
  · exact .pure ()
  · exact .fail _

end Dialogue

namespace Device

variable {part : Part}

/-- A device changes nothing for a read of its memory. -/
theorem hear_reading {d : Device} {answers message : Bytes} {address count : UInt32}
    (idle : d.incoming = none) (h : Dialogue.Reading address count message) :
    (hear part (d, answers) message).1 = d := by
  rcases h with rfl | rfl | rfl
  · simp only [hear, idle, Command.read?_line]
    cases (answer (.readMemory address count) answers).close with
    | done st rest => exact ite_self d
    | failed failure rest => rfl
    | waiting => rfl
  · simp only [hear, idle, show Command.read? blockTaken = none by decide]
  · simp only [hear, idle, show Command.read? blockWanted = none by decide]

theorem replay_reading {d : Device} {address count : UInt32} (idle : d.incoming = none)
    (messages : List Bytes) (h : ∀ message ∈ messages, Dialogue.Reading address count message)
    (answers : Bytes) : (replay part (d, answers) messages).1 = d := by
  induction messages generalizing answers with
  | nil => rfl
  | cons message rest ih =>
    have first : (hear part (d, answers) message).1 = d :=
      hear_reading idle (h message List.mem_cons_self)
    rw [replay, List.foldl_cons, ← replay]
    rw [show hear part (d, answers) message = (d, (hear part (d, answers) message).2) from
      Prod.ext first rfl]
    exact ih (fun m mem => h m (List.mem_cons_of_mem _ mem)) _

/-- **What a schedule leaves in a device.** -/
theorem replay_schedule {plan : Plan} (geometry : part.checkGeometry = .ok ())
    (fits : plan.Fits part) (m : Memory) {verify : Bool} {input rest : Bytes}
    {said : List Bytes} {a : Unit}
    (ended : perform (schedule part plan verify) input = ⟨said, .done a rest⟩)
    (honest : truthful part (⟨m, none⟩, input) said = true) :
    (replay part (⟨m, none⟩, input) said).1.memory =
      (m.eraseFirst part part.flashSectors.toNat).programFirst part.flashBase.toNat
        part.ramBufferAddress.toNat plan.blockSize.toNat plan.data plan.count := by
  have changes : Leads part (perform (clearing part ++ writing part plan)) ⟨m, none⟩ fun _ =>
      ⟨(m.eraseFirst part part.flashSectors.toNat).programFirst part.flashBase.toNat
        part.ramBufferAddress.toNat plan.blockSize.toNat plan.data plan.count, none⟩ := by
    rw [perform_append]
    exact (Leads.clearing m).bind fun _ => Leads.writing geometry fits _
  rw [schedule, perform_append] at ended
  obtain ⟨_, words, mid, words', first, second, rfl⟩ := Dialogue.bind_eq_done ended
  rw [truthful_append, Bool.and_eq_true] at honest
  rw [replay_append, changes _ _ _ _ first honest.1]
  -- what is left is to read back
  cases verify with
  | false =>
    cases second
    rfl
  | true =>
    by_cases some : Session.remappedLength < plan.data.length
    · simp only [readingBack, some, ↓reduceIte, perform_singleton] at second
      have speech := Dialogue.readBack_saysOnly (part.flashBase + Session.remappedLength.toUInt32)
        (plan.data.drop Session.remappedLength) part.encoding mid
      rw [second] at speech
      rw [replay_reading rfl words' speech]
    · simp only [readingBack, some, ↓reduceIte] at second
      cases second
      rfl

end Device

/-! ## The content of the flash -/

/-- **Erasing all sectors and programming all blocks** leaves the data of the plan. -/
theorem Memory.program_erased {part : Part} {plan : Plan} (geometry : part.checkGeometry = .ok ())
    (fits : plan.Fits part) (content ram : Nat → UInt8) (a : Nat) :
    let after := ((Memory.ofContent content ram).eraseFirst part
      part.flashSectors.toNat).programFirst part.flashBase.toNat part.ramBufferAddress.toNat
        plan.blockSize.toNat plan.data plan.count
    (part.inFlash a = true →
      after.flash a = plan.data.getD (a - part.flashBase.toNat) Memory.erased) ∧
    (part.inFlash a = false → after.flash a = content a ∧ after.programmed a = false) := by
  have count := fits.count_mul
  have room := fits.inFlash
  have clear (b : Nat) :
      ((Memory.ofContent content ram).eraseFirst part part.flashSectors.toNat).flash b =
        if part.flashBase.toNat ≤ b ∧ b < part.flashBase.toNat + part.flashSize.toNat then
          Memory.erased
        else content b := by
    rw [Memory.eraseFirst_eq, Part.sectors_mul_sectorSize geometry]
    rfl
  have fresh : ((Memory.ofContent content ram).eraseFirst part part.flashSectors.toNat).programmed
      a = false := by
    rw [Memory.eraseFirst_eq]
    rfl
  obtain ⟨flash, programmed⟩ := Memory.programFirst_spec
    ((Memory.ofContent content ram).eraseFirst part part.flashSectors.toNat)
    part.ramBufferAddress.toNat plan.count (Nat.le_of_eq count)
    (fun b (h : part.flashBase.toNat ≤ b) h' => by rw [clear, if_pos (by omega)]) a
  rw [count, clear] at flash
  rw [count, fresh, Bool.false_or] at programmed
  -- inside the flash an address was written to, or only erased; outside it was never reached
  refine ⟨fun inside => ?_, fun outside => ?_⟩
  · have inside : part.flashBase.toNat ≤ a ∧ a < part.flashBase.toNat + part.flashSize.toNat := by
      simpa [Part.inFlash] using inside
    rw [flash, if_pos inside]
    by_cases written : part.flashBase.toNat ≤ a ∧ a < part.flashBase.toNat + plan.data.length
    · rw [if_pos written, List.getD_eq_getElem?_getD, List.getD_eq_getElem?_getD,
        List.getElem?_eq_getElem (by omega)]
      rfl
    · rw [if_neg written, List.getD_eq_getElem?_getD, List.getElem?_eq_none (by omega)]
      rfl
  · have outside : ¬ (part.flashBase.toNat ≤ a ∧
        a < part.flashBase.toNat + part.flashSize.toNat) := by
      simpa [Part.inFlash] using outside
    refine ⟨?_, ?_⟩
    · rw [flash, if_neg (by omega), if_neg outside]
    · rw [programmed, ← Bool.decide_and, decide_eq_false (by omega)]

namespace Programmer

variable {δ : Type} [Transport δ]

/-- **The flash holds the plan's data**, erased bytes behind it, and nothing outside of the
    flash was changed or programmed. This holds for every run that succeeds, whatever the
    device answered on the way, as long as it told no used sector to be blank. -/
theorem flash_content (image : Image) (mode : UserCode) (verify progress : Bool)
    (P : Programmer δ) (geometry : P.part.checkGeometry = .ok ()) (cs : List Call)
    (ran : calls (flash image mode verify progress P).2 = calls P ++ cs)
    (ok : (flash image mode verify progress P).1 = .ok ()) (content ram : Nat → UInt8)
    (honest : Device.truthful P.part (⟨Memory.ofContent content ram, none⟩, held P ++ received cs)
      (sent cs) = true) :
    ∃ plan, Plan.make P.part image mode = .ok plan ∧ ∀ a,
      let after := (Device.replay P.part
        (⟨Memory.ofContent content ram, none⟩, held P ++ received cs) (sent cs)).1.memory
      (P.part.inFlash a = true →
        after.flash a = plan.data.getD (a - P.part.flashBase.toNat) Memory.erased) ∧
      (P.part.inFlash a = false → after.flash a = content a ∧ after.programmed a = false) := by
  obtain ⟨ds, ran', -, ending⟩ := flash_followsAt image mode verify progress P
  obtain rfl : cs = ds := List.append_cancel_left (ran.symm.trans ran')
  have settled := Settled.of_unbroken ending fun _ failed => nomatch ok.symm.trans failed
  have course := settled.ended
  rw [ok] at course
  unfold Dialogue.flash at course
  obtain ⟨plan, words, mid, words', planned, carried, said⟩ := Dialogue.bind_eq_done course
  cases make : Plan.make P.part image mode with
  | error failure =>
    rw [make] at planned
    cases planned
  | ok plan' =>
    rw [make] at planned
    cases planned
    have fits := Plan.fits_of_make make
    have ended := (Dialogue.carryOut_alike geometry fits verify).done carried
    rw [List.nil_append] at said
    rw [← said] at ended
    refine ⟨plan, rfl, fun a => ?_⟩
    dsimp only
    rw [Device.replay_schedule geometry fits _ ended honest]
    exact Memory.program_erased geometry fits content ram a

/-- The rehearsal succeeds on an honest device, whose first sector is used. -/
theorem flash_content_rehearsed :
    let content := fun a => if a < 64 then 0xAA else 0xFF
    let device := (⟨Memory.ofContent content fun _ => 0, none⟩ : Device)
    let after := (flash ⟨[1, 2, 3]⟩ .compute true false rehearsal).2
    ∃ plan, Plan.make rehearsal.part ⟨[1, 2, 3]⟩ .compute = .ok plan ∧ ∀ a,
      let memory := (Device.replay rehearsal.part
        (device, held rehearsal ++ received (calls after)) (sent (calls after))).1.memory
      (rehearsal.part.inFlash a = true →
        memory.flash a =
          plan.data.getD (a - rehearsal.part.flashBase.toNat) Memory.erased) ∧
      (rehearsal.part.inFlash a = false →
        memory.flash a = content a ∧ memory.programmed a = false) :=
  flash_content ⟨[1, 2, 3]⟩ .compute true false rehearsal rfl _ rfl
    (by decide +kernel) _ _ (by decide +kernel)

end Programmer
end SerialIsp
