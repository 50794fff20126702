import SerialIsp.Proofs.Schedule

/-!
# What speaks against programming

Seven checks stand between an image and a device. `Plan.checks` lists them in order, each with the
failure of what does not pass it, and making a plan is going through the list (`Plan.make_eq`):
the first check that is not passed is the one that is told, whatever the later ones would say. A
later check may look at what an earlier one changed, as the eighth vector may be computed and the
last block filled up.

A programmer makes its plan before anything else. So an image that does not pass comes to its
failure with no call on the transport, and what the session knows about the device is as before.
-/

namespace SerialIsp

open Wire

namespace Plan

/-! ## Checks -/

/-- A check, with the failure of what does not pass it. -/
structure Check where
  passed : Bool
  failure : Failure

/-- Fails where the check is not passed. -/
def Check.settle (check : Check) : Except Failure Unit :=
  if check.passed then .ok () else .error check.failure

/-- All that an image and a part are checked for, in order. -/
def checks (part : Part) (image : Image) (mode : UserCode) : List Check :=
  let prepared := image.settled mode
  let ram := part.ramBase.toNat
  let buffer := ram + part.ramBufferOffset.toNat
  let size := writeSize part.sectorSize part.ramBufferSize
  let padded := (prepared.blocks size.toNat).length
  [{ passed := mode = .compute ∨ image.storedSum = image.expectedSum
     failure := .vectorSum image.expectedSum image.storedSum },
   { passed := prepared.protection ∉ protectionWords
     failure := .protectedImage prepared.protection },
   { passed := prepared.length ≤ part.flashSize.toNat
     failure := .imageTooBig prepared.length part.flashSize },
   { passed := ram ≤ buffer ∧ buffer + part.ramBufferSize.toNat ≤ ram + part.ramSize.toNat
     failure := .bufferOutsideRam buffer (buffer + part.ramBufferSize.toNat) ram
       (ram + part.ramSize.toNat) },
   { passed := part.ramBufferAddress % 4 = 0
     failure := .misaligned .ramBufferAddress part.ramBufferAddress 4 },
   { passed := size ≠ 0
     failure := .noWriteSize part.sectorSize part.ramBufferSize },
   { passed := padded ≤ part.flashSize.toNat
     failure := .imageTooBig padded part.flashSize }]

/-- What speaks against programming an image: the failure of the first check that it does not
    pass. -/
def objection (part : Part) (image : Image) (mode : UserCode) : Option Failure :=
  ((checks part image mode).find? fun check => !check.passed).map Check.failure

/-- The plan where there is no objection. -/
def planned (part : Part) (image : Image) (mode : UserCode) : Plan :=
  let size := writeSize part.sectorSize part.ramBufferSize
  ⟨(image.settled mode).blocks size.toNat, size⟩

theorem forM_settle (cs : List Check) : forM cs Check.settle =
    match cs.find? fun check => !check.passed with
    | some check => .error check.failure
    | none => .ok () := by
  induction cs with
  | nil => rfl
  | cons check cs ih =>
    rw [List.forM_cons, Check.settle, List.find?_cons]
    cases check.passed with
    | true => exact ih
    | false => rfl

theorem ite_eq_settle {p q : Prop} [Decidable p] [Decidable q] (h : q ↔ ¬ p) (failure : Failure) :
    (if q then .error failure else .ok ()) =
      Check.settle { passed := p, failure } := by
  by_cases holds : p
  · rw [if_neg fun fails => h.mp fails holds, Check.settle, if_pos (decide_eq_true holds)]
  · rw [if_pos (h.mpr holds), Check.settle, if_neg (by rwa [decide_eq_true_eq])]

theorem settle_then {α : Type} {p : Prop} [Decidable p] (failure : Failure) (a : α) :
    (do Check.settle { passed := p, failure }; return a) =
      if p then .ok a else .error failure := by
  by_cases holds : p
  · rw [if_pos holds, Check.settle, if_pos (decide_eq_true holds)]
    rfl
  · rw [if_neg holds, Check.settle, if_neg (by rwa [decide_eq_true_eq])]
    rfl

theorem settleSum_eq (image : Image) (mode : UserCode) :
    image.settleSum mode = do
      Check.settle
        { passed := mode = .compute ∨ image.storedSum = image.expectedSum
          failure := .vectorSum image.expectedSum image.storedSum }
      return image.settled mode := by
  cases mode with
  | compute => rfl
  | verify =>
    rw [settle_then, Image.settled, Image.settleSum]
    by_cases stored : image.storedSum = image.expectedSum
    · rw [if_pos stored, if_pos (.inr stored)]
    · rw [if_neg stored, if_neg (not_or.mpr ⟨nofun, stored⟩)]

theorem blockSizeFor_eq (part : Part) : blockSizeFor part = do
    Check.settle
      { passed := writeSize part.sectorSize part.ramBufferSize ≠ 0
        failure := .noWriteSize part.sectorSize part.ramBufferSize }
    return writeSize part.sectorSize part.ramBufferSize := by
  rw [settle_then, ite_not]
  rfl

/-- **Making a plan is going through the checks.** -/
theorem make_eq (part : Part) (image : Image) (mode : UserCode) :
    make part image mode =
      match objection part image mode with
      | some failure => .error failure
      | none => .ok (planned part image mode) := by
  have size (n : Nat) : checkSize part n =
      Check.settle
        { passed := n ≤ part.flashSize.toNat
          failure := .imageTooBig n part.flashSize } :=
    ite_eq_settle Nat.not_le.symm _
  have protection (image : Image) : image.checkProtection =
      Check.settle
        { passed := image.protection ∉ protectionWords
          failure := .protectedImage image.protection } :=
    ite_eq_settle (by rw [Decidable.not_not, List.contains_iff_mem]) _
  have buffer : part.checkRamBuffer =
      Check.settle
        { passed := part.ramBase.toNat ≤ part.ramBase.toNat + part.ramBufferOffset.toNat ∧
            part.ramBase.toNat + part.ramBufferOffset.toNat + part.ramBufferSize.toNat ≤
              part.ramBase.toNat + part.ramSize.toNat
          failure := .bufferOutsideRam (part.ramBase.toNat + part.ramBufferOffset.toNat)
            (part.ramBase.toNat + part.ramBufferOffset.toNat + part.ramBufferSize.toNat)
            part.ramBase.toNat (part.ramBase.toNat + part.ramSize.toNat) } :=
    ite_eq_settle (by rw [Decidable.not_and_iff_not_or_not, Nat.not_le, Nat.not_le]) _
  have alignment : checkAlignment .ramBufferAddress part.ramBufferAddress 4 =
      Check.settle
        { passed := part.ramBufferAddress % 4 = 0
          failure := .misaligned .ramBufferAddress part.ramBufferAddress 4 } :=
    ite_eq_settle Iff.rfl _
  have run : make part image mode = do
      forM (checks part image mode) Check.settle
      return planned part image mode := by
    rw [make, Image.prepare, settleSum_eq, blockSizeFor_eq, buffer, alignment]
    simp only [size, protection, checks, planned, List.forM_cons, List.forM_nil, bind_assoc,
      pure_bind]
  rw [run, forM_settle, objection]
  cases (checks part image mode).find? fun check => !check.passed <;> rfl

theorem objection_eq_none {part : Part} {image : Image} {mode : UserCode} :
    objection part image mode = none ↔ ∀ check ∈ checks part image mode, check.passed = true := by
  rw [objection, Option.map_eq_none_iff, List.find?_eq_none]
  refine forall₂_congr fun check _ => ?_
  rw [Bool.not_eq_true', Bool.not_eq_false]

end Plan

/-! ## Runs -/

variable {δ α σ : Type}

/-- An action whose dialogue opens with something to say makes a call. -/
theorem FollowsAt.calls_ne [OnLine σ] {action : ExceptT Failure (StateM σ) α} {p : Dialogue α}
    {s : σ} (follows : FollowsAt action p s) (speaks : (p (held s)).said ≠ []) :
    calls (action s).2 ≠ calls s := by
  intro quiet
  obtain ⟨cs, ran, -, ending⟩ := follows
  obtain rfl : cs = [] := List.self_eq_append_right.mp (quiet.symm.trans ran)
  rcases ending with settled | broken
  · have ended := settled.ended
    rw [received_nil, List.append_nil] at ended
    rw [ended] at speaks
    exact speaks rfl
  · obtain ⟨pre, c, none, -, -⟩ := broken.last
    exact List.append_ne_nil_of_right_ne_nil pre (List.cons_ne_nil c []) none.symm

theorem Dialogue.said_carryOut_ne_nil (part : Part) (plan : Plan) (verify : Bool)
    (input : Bytes) : (carryOut part plan verify input).said ≠ [] := by
  intro mute
  have unlocking : (command .unlock input).said <+: (eraseFlash part input).said :=
    said_prefix_bind ..
  have erasing : (eraseFlash part input).said <+: (carryOut part plan verify input).said :=
    said_prefix_bind ..
  have first := unlocking.trans erasing
  rw [mute, said_command] at first
  cases List.prefix_nil.mp first

namespace Session

/-- The session after some notices. -/
def noted (s : Session δ) (notices : List Notice) : Session δ :=
  { s with journal.notices := s.journal.notices ++ notices.toArray }

theorem noted_noted (s : Session δ) (first second : List Notice) :
    (s.noted first).noted second = s.noted (first ++ second) := by
  simp only [noted, Array.append_assoc, List.append_toArray]

theorem notify_apply (notice : Notice) (s : Session δ) :
    (notify notice : SessionM δ Unit) s = (.ok (), s.noted [notice]) := rfl

theorem forM_notify (notices : List Notice) (s : Session δ) :
    (notices.forM notify : SessionM δ Unit) s = (.ok (), s.noted notices) := by
  induction notices generalizing s with
  | nil =>
    rw [noted, Array.append_empty]
    rfl
  | cons notice notices ih =>
    show (notify notice >>= fun _ => notices.forM notify) s = _
    rw [run_bind, notify_apply]
    exact (ih _).trans (by rw [noted_noted]; rfl)

end Session

namespace Programmer

theorem onSession_apply (action : SessionM δ α) (P : Programmer δ) :
    onSession action P = ((action P.session).1, { P with session := (action P.session).2 }) := rfl

variable [Transport δ]

/-- **An image that does not pass validation leaves the device alone**, and fails with the first
    check that it does not pass. Only the stage changes, and what was told. One that passes is
    taken to the device. -/
theorem flash_checks_first (image : Image) (mode : UserCode) (verify progress : Bool)
    (P : Programmer δ) :
    let run := flash image mode verify progress P
    (∀ failure, Plan.objection P.part image mode = some failure →
      run = (.error failure,
        { P with
          session := P.session.noted
            (image.sumNotices mode ++ [.failedWhile Stage.validating.name])
          stage := .failed })) ∧
      (calls run.2 ≠ calls P ↔
        ∀ check ∈ Plan.checks P.part image mode, check.passed = true) := by
  intro run
  have refused (failure : Failure) (found : Plan.objection P.part image mode = some failure) :
      run = (.error failure,
        { P with
          session := P.session.noted
            (image.sumNotices mode ++ [.failedWhile Stage.validating.name])
          stage := .failed }) := by
    have made : Plan.make P.part image mode = .error failure := by
      rw [Plan.make_eq, found]
    show operation _ _ P = _
    unfold operation
    simp only [run_bind, enterStage_apply, run_tryCatch, run_get, onSession_apply,
      Session.forM_notify, made, Session.ofExcept, run_throw, Session.notify_apply,
      Session.noted_noted]
  refine ⟨refused, ?_⟩
  rw [← Plan.objection_eq_none]
  constructor
  · intro called
    cases found : Plan.objection P.part image mode with
    | none => rfl
    | some failure =>
      rw [refused failure found] at called
      exact absurd rfl called
  · intro none
    refine (flash_followsAt image mode verify progress P).calls_ne ?_
    rw [Dialogue.flash, Plan.make_eq, none]
    show ((pure (Plan.planned P.part image mode) >>= fun plan =>
      Dialogue.carryOut P.part plan verify) (held P)).said ≠ []
    rw [Dialogue.pure_bind]
    exact Dialogue.said_carryOut_ne_nil _ _ _ _

/-- An image that would fit, if it were not for the filling of its last block. -/
theorem flash_checks_first_rehearsed :
    let narrow : Programmer Scripted :=
      { rehearsal with part := { rehearsal.part with flashSize := 100, flashSectors := 1 } }
    let refused := flash ⟨List.replicate 70 0⟩ .verify true false narrow
    let carriedOut := flash ⟨[1, 2, 3]⟩ .compute true false rehearsal
    refused.1 = .error (.imageTooBig 128 100) ∧ refused.2.stage = .failed ∧
      calls refused.2 = calls narrow ∧ calls carriedOut.2 ≠ calls rehearsal := by
  intro narrow refused carriedOut
  have objects : Plan.objection narrow.part ⟨List.replicate 70 0⟩ .verify =
      some (.imageTooBig 128 100) := by decide +kernel
  have result : refused = _ :=
    (flash_checks_first ⟨List.replicate 70 0⟩ .verify true false narrow).1 _ objects
  have passed := (flash_checks_first ⟨[1, 2, 3]⟩ .compute true false rehearsal).2
  rw [result]
  exact ⟨rfl, rfl, rfl, passed.mpr (by decide +kernel)⟩

end Programmer
end SerialIsp
