import SerialIsp.Proofs.Frames.Operations
import SerialIsp.Proofs.Stages
import SerialIsp.Proofs.Failures
import SerialIsp.Proofs.Placement

/-!
# Reading back

What verifying comes to, once every block of a plan was written. The bootloader maps its own
vectors over the first bytes of the flash, so these are left out, and with them four places have to
be moved by the same length: the address that is read from, how much is read, what it is compared
with, and the offset that is told when it differs.

* **Data that ends with the vectors** is not read back, and programming it succeeds.
* **Longer data** is read back from behind the vectors to its end, and programming it succeeds
  exactly when what is read is what was written there. Where it was read and is not,
  the failure tells the first offset into the data at which the two differ
  (`Session.verifyFlash_of_read`).
-/

namespace SerialIsp

open Wire

variable {δ : Type} [Transport δ]

/-- **The first difference** behind the remapped vectors, as an offset into the data: what was read
    back starts where these end. -/
structure FirstOff (data received : Bytes) (offset : Nat) : Prop where
  behind : Session.remappedLength ≤ offset
  inside : offset < data.length
  here : data[offset]? ≠ received[offset - Session.remappedLength]?
  before : ∀ i, Session.remappedLength ≤ i → i < offset →
    data[i]? = received[i - Session.remappedLength]?

theorem firstOff_of_firstDifference {data received : Bytes} {i : Nat}
    (h : Bytes.firstDifference (data.drop Session.remappedLength) received = some i) :
    FirstOff data received (Session.remappedLength + i) := by
  obtain ⟨inside, here, before⟩ := Bytes.of_firstDifference_eq_some h
  rw [List.length_drop] at inside
  rw [List.getElem?_drop] at here
  refine ⟨Nat.le_add_right .., by omega, ?_, ?_⟩
  · rwa [Nat.add_sub_cancel_left]
  · intro j behind lt
    have same := before (j - Session.remappedLength) (by omega)
    rwa [List.getElem?_drop, Nat.add_sub_cancel' behind] at same

namespace Session

/-- The read that verifying makes. -/
def readBack (part : Part) (data : Bytes) (progress : Bool) : SessionM δ Bytes :=
  readMemory (part.flashBase + remappedLength.toUInt32)
    (data.length - remappedLength).toUInt32 part.encoding progress

section

variable {part : Part} {data : Bytes} {progress : Bool} {s s' : Session δ}

theorem verifyFlash_of_short (short : data.length ≤ remappedLength) :
    (verifyFlash part data progress : SessionM δ Unit) s =
      (.ok (), s.noted [.nothingToVerify]) := by
  rw [verifyFlash, if_pos short]
  rfl

theorem verifyFlash_of_error {failure : Failure} (long : remappedLength < data.length)
    (read : readBack part data progress s = (.error failure, s')) :
    verifyFlash part data progress s = (.error failure, s') := by
  rw [readBack, ← List.length_drop] at read
  rw [verifyFlash, if_neg (Nat.not_le.mpr long)]
  dsimp only
  rw [bind_apply, read]

/-- **What was read settles it.** -/
theorem verifyFlash_of_read {received : Bytes} (long : remappedLength < data.length)
    (small : data.length < UInt32.size)
    (read : readBack part data progress s = (.ok received, s')) :
    (received = data.drop remappedLength →
      verifyFlash part data progress s = (.ok (), s'.noted [.verified])) ∧
    (received ≠ data.drop remappedLength → ∃ offset, FirstOff data received offset ∧
      verifyFlash part data progress s = (.error (.verification offset), s')) := by
  have length : received.length = (data.drop remappedLength).length := by
    rw [length_of_readMemory read, List.length_drop]
    exact UInt32.toNat_ofNat_of_lt' (Nat.lt_of_le_of_lt (Nat.sub_le ..) small)
  rw [readBack, ← List.length_drop] at read
  rw [verifyFlash_eq_compareFlash part small, compareFlash, if_neg (Nat.not_le.mpr long)]
  rw [bind_apply, read]
  dsimp only
  constructor
  · rintro rfl
    rw [Bytes.firstDifference_self]
    rfl
  · intro other
    cases difference : Bytes.firstDifference (data.drop remappedLength) received with
    | none =>
      exact absurd (Bytes.eq_of_firstDifference_eq_none length.symm difference).symm other
    | some i => exact ⟨_, firstOff_of_firstDifference difference, rfl⟩

end

/-- The read is made, and its command is sent first. -/
theorem opens_readBack {part : Part} {plan : Plan} (fits : plan.Fits part)
    (aligned : part.flashBase % 4 = 0) (progress : Bool) :
    Opens (Command.readMemory (part.flashBase + remappedLength.toUInt32)
      (plan.data.length - remappedLength).toUInt32).line
      (readBack part plan.data progress : SessionM δ Bytes) := by
  have frame := frame_undropped (δ := δ)
  have count := Dialogue.checkAlignment_readLength fits
  rw [List.length_drop] at count
  rw [readBack, readMemory_eq, Dialogue.checkAlignment_readAddress aligned, count]
  exact (opens_command _).bind fun _ => frame.fetch _ _ _ _

end Session

namespace Programmer

/-- Every sector was cleared and every block was written, and this is where the session is then. -/
def Written (image : Image) (mode : UserCode) (progress : Bool) (P : Programmer δ) (plan : Plan)
    (s' : Session δ) : Prop :=
  ∃ s, Session.eraseFlash P.part progress (P.session.noted (image.sumNotices mode)) = (.ok (), s) ∧
    Session.programFlash P.part plan progress s = (.ok (), s')

/-- **How a run goes on** from where everything was written, by what a read of memory comes to. -/
structure ReadsBack (part : Part) (data : Bytes) (s : Session δ)
    (read : Except Failure Bytes × Session δ) (run : Except Failure Unit × Programmer δ) :
    Prop where
  address : (part.flashBase + Session.remappedLength.toUInt32).toNat =
    part.flashBase.toNat + Session.remappedLength
  count : (data.length - Session.remappedLength).toUInt32.toNat =
    data.length - Session.remappedLength
  /-- The command of the read is the next that is written, -/
  asks : ∃ outcome post, calls run.2 = calls s ++
    .write (Command.readMemory (part.flashBase + Session.remappedLength.toUInt32)
      (data.length - Session.remappedLength).toUInt32).line outcome :: post
  /-- and nothing is called behind the read. -/
  last : calls run.2 = calls read.2
  ok_iff : run.1 = .ok () ↔ read.1 = .ok (data.drop Session.remappedLength)
  done : run.1 = .ok () → run.2.stage = .done
  differs : ∀ received, read.1 = .ok received → received ≠ data.drop Session.remappedLength →
    ∃ offset, FirstOff data received offset ∧ run.1 = .error (.verification offset) ∧
      run.2.stage = .failed
  failed : ∀ failure, read.1 = .error failure → run.1 = .error failure ∧ run.2.stage = .failed

section

variable {image : Image} {mode : UserCode} {progress : Bool} {P : Programmer δ} {plan : Plan}
  {s : Session δ}

theorem flash_of_verified {s' : Session δ} (made : Plan.make P.part image mode = .ok plan)
    (written : Written image mode progress P plan s)
    (verified : Session.verifyFlash P.part plan.data progress s = (.ok (), s')) :
    flash image mode true progress P = (.ok (), { P with session := s', stage := .done }) := by
  obtain ⟨s₀, erased, programmed⟩ := written
  simp only [flash_of_make made, erased, programmed, ↓reduceIte, verified]

theorem flash_of_refuted {s' : Session δ} {failure : Failure}
    (made : Plan.make P.part image mode = .ok plan)
    (written : Written image mode progress P plan s)
    (refuted : Session.verifyFlash P.part plan.data progress s = (.error failure, s')) :
    flash image mode true progress P = (.error failure,
      { P with session := s'.noted [.failedWhile Stage.verifying.name], stage := .failed }) := by
  obtain ⟨s₀, erased, programmed⟩ := written
  simp only [flash_of_make made, erased, programmed, ↓reduceIte, refuted]

theorem written_of_ok (made : Plan.make P.part image mode = .ok plan)
    (ok : (flash image mode true progress P).1 = .ok ()) :
    ∃ s, Written image mode progress P plan s := by
  rw [flash_of_make made] at ok
  rcases erased : Session.eraseFlash P.part progress (P.session.noted (image.sumNotices mode))
    with ⟨failure | _, s⟩
  · rw [erased] at ok
    cases ok
  rcases programmed : Session.programFlash P.part plan progress s with ⟨failure | _, s'⟩
  · simp only [erased, programmed] at ok
    cases ok
  · exact ⟨s', s, erased, programmed⟩

theorem readsBack_of_written (geometry : P.part.checkGeometry = .ok ())
    (aligned : P.part.flashBase % 4 = 0) (made : Plan.make P.part image mode = .ok plan)
    (written : Written image mode progress P plan s)
    (long : Session.remappedLength < plan.data.length) :
    ReadsBack P.part plan.data s (Session.readBack P.part plan.data progress s)
      (flash image mode true progress P) := by
  have fits := Plan.fits_of_make made
  have small : plan.data.length < UInt32.size :=
    Nat.lt_of_le_of_lt fits.inFlash P.part.flashSize.toNat_lt
  have address := fits.toNat_readAddress geometry long
  have count := fits.toNat_readLength
  rw [List.length_drop] at count
  have asks := Session.opens_readBack fits aligned progress s
  rcases read : Session.readBack P.part plan.data progress s with ⟨failure | received, s'⟩
  · rw [read] at asks
    rw [flash_of_refuted made written (Session.verifyFlash_of_error long read)]
    refine ⟨address, count, asks, rfl, ⟨nofun, nofun⟩, nofun, nofun, ?_⟩
    rintro _ ⟨⟩
    exact ⟨rfl, rfl⟩
  obtain ⟨same, other⟩ := Session.verifyFlash_of_read long small read
  rw [read] at asks
  by_cases equal : received = plan.data.drop Session.remappedLength
  · rw [flash_of_verified made written (same equal)]
    refine ⟨address, count, asks, rfl, iff_of_true rfl (congrArg _ equal), fun _ => rfl, ?_, nofun⟩
    rintro _ ⟨⟩ differs
    exact absurd equal differs
  · obtain ⟨offset, first, verified⟩ := other equal
    rw [flash_of_refuted made written verified]
    refine ⟨address, count, asks, rfl, ⟨nofun, ?_⟩, nofun, ?_, nofun⟩
    · intro ok
      exact absurd (Except.ok.inj ok) equal
    · rintro _ ⟨⟩ -
      exact ⟨offset, first, rfl, rfl⟩

end

/-- **What verifying comes to.** A run that succeeds had written everything; and where everything
    was written, data that ends with the vectors is not read back, and the run succeeds without
    another call. Longer data is read back from behind the vectors. -/
theorem flash_reads_back (image : Image) (mode : UserCode) (progress : Bool) (P : Programmer δ)
    (plan : Plan) (geometry : P.part.checkGeometry = .ok ())
    (aligned : P.part.flashBase % 4 = 0) (made : Plan.make P.part image mode = .ok plan) :
    let run := flash image mode true progress P
    (run.1 = .ok () → ∃ s, Written image mode progress P plan s) ∧
      ∀ s, Written image mode progress P plan s →
        (plan.data.length ≤ Session.remappedLength →
          run.1 = .ok () ∧ calls run.2 = calls s ∧ run.2.stage = .done) ∧
        (Session.remappedLength < plan.data.length →
          ReadsBack P.part plan.data s (Session.readBack P.part plan.data progress s) run) := by
  intro run
  refine ⟨written_of_ok made, fun s written => ⟨fun short => ?_, fun long => ?_⟩⟩
  · have whole : run = _ := flash_of_verified made written (Session.verifyFlash_of_short short)
    rw [whole]
    exact ⟨rfl, rfl, rfl⟩
  · exact readsBack_of_written geometry aligned made written long

/-- A programmer with a device that takes all blocks, and reads back with one byte wrong. -/
def forgetful : Programmer Scripted where
  session := Session.start
    { replies := skewed.session.device.replies ++
        [Bytes.ascii "0\r\n" ++ (List.replicate 256 0).set 3 1] } {}
  part := { skewed.part with flashBase := 0 }

/-- The offset that is told for it counts from the start of the data. -/
theorem flash_reads_back_forgetful :
    let image : Image := ⟨List.replicate 600 0⟩
    let plan : Plan := ⟨List.replicate 768 0, 256⟩
    let received : Bytes := (List.replicate 256 0).set 3 1
    forgetful.part.checkGeometry = .ok () ∧ forgetful.part.flashBase % 4 = 0 ∧
      Plan.make forgetful.part image .compute = .ok plan ∧
      ∃ s, Written image .compute false forgetful plan s ∧
        (Session.readBack forgetful.part plan.data false s).1 = .ok received ∧
        FirstOff plan.data received 515 ∧
        (flash image .compute true false forgetful).1 = .error (.verification 515) := by
  intro image plan received
  have made : Plan.make forgetful.part image .compute = .ok plan := by decide +kernel
  let erased := Session.eraseFlash forgetful.part false
    (forgetful.session.noted (image.sumNotices .compute))
  have cleared : erased.1 = .ok () := by decide +kernel
  have programmed : (Session.programFlash forgetful.part plan false erased.2).1 = .ok () := by
    decide +kernel
  have written : Written image .compute false forgetful plan
      (Session.programFlash forgetful.part plan false erased.2).2 :=
    ⟨erased.2, Prod.ext cleared rfl, Prod.ext programmed rfl⟩
  have read : (Session.readBack forgetful.part plan.data false
      (Session.programFlash forgetful.part plan false erased.2).2).1 = .ok received := by
    decide +kernel
  have long : Session.remappedLength < plan.data.length := by decide +kernel
  have wrong : received ≠ plan.data.drop Session.remappedLength := by decide +kernel
  have reads := (flash_reads_back image .compute false forgetful plan rfl (by decide) made).2 _
    written
  obtain ⟨offset, first, failed, -⟩ := (reads.2 long).differs received read wrong
  have told : (flash image .compute true false forgetful).1 = .error (.verification 515) := by
    decide +kernel
  have same : offset = 515 := by
    rw [told] at failed
    cases failed
    rfl
  exact ⟨rfl, by decide, made, _, written, read, same ▸ first, told⟩

end Programmer
end SerialIsp
