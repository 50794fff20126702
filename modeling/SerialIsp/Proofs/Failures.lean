import SerialIsp.Proofs.Device.Conduct
import SerialIsp.Proofs.Objections
import SerialIsp.Proofs.Transfer.Bounds

/-!
# How programming fails after it began

A plan is made so that nothing on this side can go wrong any more. Once a call was made, a
failure should come from the device or from the line: a reply that is missing, garbled or no
success, a block that stayed corrupt, or content that reads back differently.

There is one exception. The flash is read back from an address that has to start a word, and no
check asks whether the flash does. Where it does not, every run with verification of more than
the remapped vectors ends with a misaligned address, behind the last copy.
-/

namespace SerialIsp

open Wire

/-! ## Failures of the device -/

/-- The failures that a device or the line to it brings about. -/
def Failure.isOfDevice : Failure → Prop
  | .connecting _ | .flashing _ | .refused .. | .corruptBlock .. | .verification _ => True
  | _ => False

namespace Failure

variable {failure : Failure}

theorem isOfDevice_of_isBreak (h : failure.isBreak) : failure.isOfDevice := by
  cases failure with
  | connecting fault => trivial
  | flashing fault => trivial
  | _ => exact h.elim

theorem isOfDevice_of_isGarbled (h : failure.isGarbled) : failure.isOfDevice := by
  cases failure with
  | connecting fault => trivial
  | _ => exact h.elim

theorem isOfDevice_whileFlashing (h : failure.isOfDevice) :
    failure.whileFlashing.isOfDevice := by
  cases failure with
  | connecting fault => trivial
  | _ => exact h

end Failure

namespace Dialogue

variable {α : Type} {part : Part} {plan : Plan}

theorem FailsOnly.mapFailure {allowed allowed' : Failure → Prop} {p : Dialogue α}
    (hp : p.FailsOnly allowed) {g : Failure → Failure}
    (h : ∀ failure, allowed failure → allowed' (g failure)) :
    (p.mapFailure g).FailsOnly allowed' := by
  intro input failure rest ending
  unfold Dialogue.mapFailure at ending
  split at ending
  · next failed =>
    cases ending
    exact h _ (hp failed)
  · next other => exact absurd ending (other failure rest)

theorem Listening.ofDevice {p : Dialogue α} (h : p.Listening) : p.FailsOnly Failure.isOfDevice :=
  h.garbled.mono fun _ => Failure.isOfDevice_of_isGarbled

theorem command_ofDevice (c : Command) : (command c).FailsOnly Failure.isOfDevice := by
  refine (command_refuses c).mono fun failure h => ?_
  rcases h with garbled | ⟨status, rfl⟩
  · exact Failure.isOfDevice_of_isGarbled garbled
  · trivial

theorem transfer_ofDevice (count : Nat) (encoding : Encoding) :
    (transfer count encoding).FailsOnly Failure.isOfDevice := by
  refine (transfer_failsOnly count encoding).mono fun failure h => ?_
  rcases h with garbled | ⟨block, -, rfl⟩
  · exact Failure.isOfDevice_of_isGarbled garbled
  · trivial

theorem clearSector_ofDevice (sector : UInt32) :
    (clearSector sector).FailsOnly Failure.isOfDevice := by
  -- ranges of one sector pass their check
  rw [clearSector, blankCheck, prepareForWrite_self, eraseSectors_self, checkSectorRange_self]
  refine .bind (.bind (.pure ()) fun _ => ?_) fun found => ?_
  · refine ((commandStatus_failsOnly _).mono fun _ =>
      Failure.isOfDevice_of_isGarbled).bind fun status => ?_
    split
    · exact .pure _
    · exact listening_number.ofDevice.bind fun _ => listening_number.ofDevice.bind fun _ =>
        .pure _
    · exact failsOnly_fail trivial
  · cases found with
    | blank => exact .pure false
    | used offset content =>
      exact (command_ofDevice _).bind fun _ => (command_ofDevice _).bind fun _ => .pure true

theorem eraseFlash_ofDevice (part : Part) : (eraseFlash part).FailsOnly Failure.isOfDevice := by
  have sectors (sector : UInt32) (left : Nat) :
      (clearSectors sector left).FailsOnly Failure.isOfDevice := by
    induction left generalizing sector with
    | zero => exact .pure 0
    | succ left ih =>
      exact (clearSector_ofDevice sector).bind fun _ => (ih _).bind fun _ => .pure _
  exact (command_ofDevice _).bind fun _ => (sectors _ _).bind fun _ => .pure ()

theorem FailsOnly.untilArrived {allowed : Failure → Prop} {block : Nat}
    {sending : Dialogue (Option α)} {again : Dialogue Unit} (hs : sending.FailsOnly allowed)
    (ha : again.FailsOnly allowed) (corrupt : allowed (.corruptBlock block (maxResends + 1)))
    (resends : Nat) : (untilArrived block sending again resends).FailsOnly allowed := by
  induction resends with
  | zero =>
    rw [Dialogue.untilArrived]
    refine hs.bind fun heard => ?_
    cases heard with
    | some a => exact .pure a
    | none => exact failsOnly_fail corrupt
  | succ left ih =>
    rw [Dialogue.untilArrived]
    refine hs.bind fun heard => ?_
    cases heard with
    | some a => exact .pure a
    | none => exact ha.bind fun _ => ih

theorem FailsOnly.perform {allowed : Failure → Prop} {tasks : List Task}
    (h : ∀ task ∈ tasks, task.course.FailsOnly allowed) : (perform tasks).FailsOnly allowed := by
  induction tasks with
  | nil => exact .pure ()
  | cons task rest ih =>
    refine (h task List.mem_cons_self).bind fun _ => ih ?_
    intro task mem
    exact h task (List.mem_cons_of_mem _ mem)

theorem staging_ofDevice (encoding : Encoding) (b : Bytes) :
    (perform (staging encoding b)).FailsOnly Failure.isOfDevice := by
  refine .perform ?_
  intro task mem
  cases encoding with
  | raw =>
    rw [List.mem_singleton.mp mem]
    exact failsOnly_say b
  | lines =>
    obtain ⟨number, h, rfl⟩ := List.mem_mapIdx.mp mem
    have sent (frame : Bytes) : (sendFrame frame).FailsOnly Failure.isOfDevice :=
      (failsOnly_say frame).bind fun _ => listening_line.ofDevice.bind fun _ => .pure _
    exact .untilArrived (sent _) (.pure ()) trivial maxResends

/-- Writing can fail by the device only, since a plan has its block size and its buffer checked. -/
theorem programBlocks_ofDevice (fits : plan.Fits part) :
    (programBlocks part plan.blockSize 0 plan.blocks).FailsOnly Failure.isOfDevice := by
  have blocks (index : Nat) (bs : List Bytes)
      (lengths : ∀ b ∈ bs, b.length = plan.blockSize.toNat) :
      (programBlocks part plan.blockSize index bs).FailsOnly Failure.isOfDevice := by
    induction bs generalizing index with
    | nil => exact .pure ()
    | cons b bs ih =>
      rw [programBlocks, programBlock_eq_commands fits index (lengths b List.mem_cons_self)]
      refine .bind ?_ fun _ => ih _ fun b mem => lengths b (List.mem_cons_of_mem _ mem)
      exact (command_ofDevice _).bind fun _ => (command_ofDevice _).bind fun _ =>
        (staging_ofDevice _ _).bind fun _ => command_ofDevice _
  refine blocks 0 _ fun b mem => ?_
  rw [fits.blocks_eq] at mem
  obtain ⟨i, h, rfl⟩ := List.mem_map.mp mem
  exact fits.length_piece (List.mem_range.mp h)

end Dialogue

/-! ## Reading back -/

/-- The flash is read back from the middle of a word. -/
def Plan.ReadsMisaligned (part : Part) (plan : Plan) : Prop :=
  Session.remappedLength < plan.data.length ∧ part.flashBase % 4 ≠ 0

/-- The failure that this leads to. -/
def Part.misalignedRead (part : Part) : Failure :=
  .misaligned .address (part.flashBase + Session.remappedLength.toUInt32) 4

namespace Dialogue

variable {part : Part} {plan : Plan}

theorem readAddress_mod (base : UInt32) :
    (base + Session.remappedLength.toUInt32) % 4 = base % 4 := by
  refine UInt32.toNat_inj.mp ?_
  rw [UInt32.toNat_mod, UInt32.toNat_mod, UInt32.toNat_add]
  -- the vectors that are left out are whole words
  show (base.toNat + 512) % 2 ^ 32 % 4 = base.toNat % 4
  omega

theorem checkAlignment_readAddress {base : UInt32} (aligned : base % 4 = 0) :
    checkAlignment .address (base + Session.remappedLength.toUInt32) 4 = .ok () := by
  refine if_neg (Decidable.not_not.mpr ?_)
  rw [readAddress_mod, aligned]

theorem checkAlignment_readLength (fits : plan.Fits part) :
    checkAlignment .byteCount (plan.data.drop Session.remappedLength).length.toUInt32 4 =
      .ok () := by
  refine checkAlignment_of_dvd _ 4 ?_
  rw [fits.toNat_readLength]
  exact Nat.dvd_sub (Nat.dvd_trans (Plan.four_dvd_of_mem_writeSizes fits.size) fits.whole)
    (by decide)

theorem verifyFlash_of_misaligned (misaligned : plan.ReadsMisaligned part) :
    verifyFlash part plan.data = fail part.misalignedRead := by
  have refused : checkAlignment .address (part.flashBase + Session.remappedLength.toUInt32) 4 =
      .error part.misalignedRead := by
    refine if_pos ?_
    rw [readAddress_mod]
    exact misaligned.2
  unfold verifyFlash readMemory
  rw [if_neg (Nat.not_le.mpr misaligned.1), refused]
  rfl

theorem verifyFlash_ofDevice (fits : plan.Fits part) (aligned : ¬ plan.ReadsMisaligned part) :
    (verifyFlash part plan.data).FailsOnly Failure.isOfDevice := by
  unfold verifyFlash
  by_cases short : plan.data.length ≤ Session.remappedLength
  · rw [if_pos short]
    exact .pure ()
  · have aligned : part.flashBase % 4 = 0 :=
      Decidable.not_not.mp fun skewed => aligned ⟨Nat.not_le.mp short, skewed⟩
    rw [if_neg short]
    refine .bind ?_ fun actual => ?_
    · rw [readMemory_eq, opening, checkAlignment_readAddress aligned,
        checkAlignment_readLength fits]
      refine .bind ((FailsOnly.pure ()).bind fun _ => (FailsOnly.pure ()).bind fun _ =>
        command_ofDevice _) fun _ => ?_
      exact transfer_ofDevice _ part.encoding
    · unfold settleReadBack
      split
      · exact failsOnly_fail trivial
      · split
        · exact failsOnly_fail trivial
        · exact .pure ()

theorem carryOut_failsOnly (fits : plan.Fits part) (verify : Bool) :
    (carryOut part plan verify).FailsOnly fun failure => failure.isOfDevice ∨
      verify = true ∧ plan.ReadsMisaligned part ∧ failure = part.misalignedRead := by
  refine ((eraseFlash_ofDevice part).mono fun _ => .inl).bind fun _ => ?_
  refine ((programBlocks_ofDevice fits).mapFailure fun _ h =>
    .inl (Failure.isOfDevice_whileFlashing h)).bind fun _ => ?_
  cases verify with
  | false => exact .pure ()
  | true =>
    by_cases misaligned : plan.ReadsMisaligned part
    · show (verifyFlash part plan.data).FailsOnly _
      rw [verifyFlash_of_misaligned misaligned]
      exact failsOnly_fail (.inr ⟨rfl, misaligned, rfl⟩)
    · exact (verifyFlash_ofDevice fits misaligned).mono fun _ => .inl

end Dialogue

/-! ## Runs -/

namespace Programmer

variable {δ : Type} [Transport δ]

theorem calls_flash_of_error {image : Image} {mode : UserCode} {verify progress : Bool}
    {P : Programmer δ} {failure : Failure} (refused : Plan.make P.part image mode = .error failure) :
    calls (flash image mode verify progress P).2 = calls P := by
  show calls (operation _ _ P).2 = _
  unfold operation
  simp only [run_bind, enterStage_apply, run_tryCatch, run_get, onSession_apply,
    Session.forM_notify, refused, Session.ofExcept, run_throw, Session.notify_apply]
  rfl

/-- **Once a call was made**, there is a plan, and programming fails by the device or the line
    only, with one exception: a flash that does not start a word is not read back. Then no run
    with verification succeeds. -/
theorem flash_failures (image : Image) (mode : UserCode) (verify progress : Bool)
    (P : Programmer δ) :
    let run := flash image mode verify progress P
    (∀ failure, run.1 = .error failure → calls run.2 ≠ calls P →
      ∃ plan, Plan.make P.part image mode = .ok plan ∧ (failure.isOfDevice ∨
        verify = true ∧ plan.ReadsMisaligned P.part ∧ failure = P.part.misalignedRead)) ∧
      ∀ plan, Plan.make P.part image mode = .ok plan → verify = true →
        plan.ReadsMisaligned P.part → run.1 ≠ .ok () := by
  intro run
  obtain ⟨cs, ran, -, ending⟩ := flash_followsAt image mode verify progress P
  constructor
  · intro failure failed touched
    cases made : Plan.make P.part image mode with
    | error refusal => exact absurd (calls_flash_of_error made) touched
    | ok plan =>
      refine ⟨plan, rfl, ?_⟩
      rw [Dialogue.flash_of_make made, show (flash image mode verify progress P).1 = _ from failed]
        at ending
      rcases ending with settled | broken
      · exact Dialogue.carryOut_failsOnly (Plan.fits_of_make made) verify
          (congrArg Course.close settled.ended)
      · obtain ⟨f, same, isBreak⟩ := broken.result
        cases same
        exact .inl (Failure.isOfDevice_of_isBreak isBreak)
  · intro plan made verifying misaligned ok
    have settled := Settled.of_unbroken ending fun _ failed => nomatch ok.symm.trans failed
    have course := settled.ended
    rw [show (flash image mode verify progress P).1 = _ from ok, Dialogue.flash_of_make made,
      verifying, Dialogue.carryOut, ← Dialogue.bind_assoc] at course
    obtain ⟨_, words, mid, words', -, last, -⟩ := Dialogue.bind_eq_done course
    rw [if_pos rfl, Dialogue.verifyFlash_of_misaligned misaligned] at last
    cases last

/-- A programmer of a part whose flash starts at address 1, with a device that answers every
    command with success, and finds both sectors blank. -/
def skewed : Programmer Scripted where
  session := Session.start
    { replies := ["0\r\n", "0\r\n", "0\r\n", "0\r\n", "0\r\n", "", "0\r\n", "0\r\n", "0\r\n", "",
        "0\r\n", "0\r\n", "0\r\n", "", "0\r\n"].map Bytes.ascii } {}
  part :=
    { rehearsal.part with
      flashBase := 1, flashSize := 1024, ramSize := 1024, ramBufferOffset := 512,
      ramBufferSize := 256, encoding := .raw }

/-- The exception happens, and is the end of every such run. -/
theorem flash_failures_rehearsed :
    let image : Image := ⟨List.replicate 600 0⟩
    skewed.part.checkGeometry = .ok () ∧
      (flash image .compute true false skewed).1 = .error skewed.part.misalignedRead ∧
      ∃ plan, Plan.make skewed.part image .compute = .ok plan ∧
        plan.ReadsMisaligned skewed.part ∧
        ∀ session : Session Scripted,
          (flash image .compute true false { skewed with session }).1 ≠ .ok () := by
  intro image
  have failed : (flash image .compute true false skewed).1 = .error skewed.part.misalignedRead := by
    decide +kernel
  have touched : calls (flash image .compute true false skewed).2 ≠ calls skewed :=
    fun same => absurd (congrArg sent same) (by decide +kernel)
  obtain ⟨plan, made, ofDevice | ⟨-, misaligned, -⟩⟩ :=
    (flash_failures image .compute true false skewed).1 _ failed touched
  · exact ofDevice.elim
  · exact ⟨rfl, failed, plan, made, misaligned, fun session =>
      (flash_failures image .compute true false { skewed with session }).2 plan made rfl misaligned⟩

/-- The argument is refused when both sectors were cleared and all three blocks were written. -/
theorem flash_refuses_late :
    let image : Image := ⟨List.replicate 600 0⟩
    let run := flash image .compute true false skewed
    let m := Memory.ofContent (fun _ => 0xFF) fun _ => 0
    let given := Device.heard skewed.part (⟨m, none⟩, received (calls run.2)) (sent (calls run.2))
    skewed.part.checkGeometry = .ok () ∧ sent (calls run.2) ≠ sent (calls skewed) ∧
      given.map Command.kind = [.unlock, .blankCheck, .blankCheck,
        .prepareForWrite, .writeToRam, .copyRamToFlash,
        .prepareForWrite, .writeToRam, .copyRamToFlash,
        .prepareForWrite, .writeToRam, .copyRamToFlash] ∧
      run.1 = .error (.misaligned .address 0x201 4) := by
  decide +kernel

end Programmer
end SerialIsp
