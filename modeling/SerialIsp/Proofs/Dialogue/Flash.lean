import SerialIsp.Proofs.Dialogue.Memory

/-!
# Programming a flash as a dialogue

Everything a programmer says to a device while it clears, writes and reads back a flash. What
happens to the stage of a programmer, to its progress reports and to its notices is not heard
on the line, so the dialogue has none of it.
-/

namespace SerialIsp

open Wire

variable {δ α : Type}

/-! ## The dialogues

Each has the name of the operation it belongs to. -/

namespace Dialogue

/-- Erases a sector unless it is blank; whether it was erased. -/
def clearSector (sector : UInt32) : Dialogue Bool := do
  match ← blankCheck sector sector with
  | .blank => return false
  | .used _ _ =>
    prepareForWrite sector sector
    eraseSectors sector sector
    return true

/-- Clears `left` sectors from `sector` on, and counts those that had to be erased. -/
def clearSectors (sector : UInt32) : (left : Nat) → Dialogue Nat
  | 0 => return 0
  | left + 1 => do
    let erased ← clearSector sector
    return erased.toNat + (← clearSectors (sector + 1) left)

def eraseFlash (part : Part) : Dialogue Unit := do
  command .unlock
  let _ ← clearSectors 0 part.flashSectors.toNat

def programBlock (part : Part) (blockSize : UInt32) (index : Nat) (block : Bytes) :
    Dialogue Unit := do
  let offset := index.toUInt32 * blockSize
  let sector := part.sectorOf offset
  prepareForWrite sector sector
  writeToRam part.ramBufferAddress block part.encoding
  copyRamToFlash (part.flashBase + offset) part.ramBufferAddress blockSize

/-- Writes blocks, the first of which has the number `index`. -/
def programBlocks (part : Part) (blockSize : UInt32) (index : Nat) : List Bytes → Dialogue Unit
  | [] => return ()
  | block :: rest => do
    programBlock part blockSize index block
    programBlocks part blockSize (index + 1) rest

/-- Compares what was read back with what was written. -/
def settleReadBack (expected actual : Bytes) : Except Failure Unit :=
  match Bytes.firstDifference expected actual with
  | some offset => .error (.verification (Session.remappedLength + offset))
  | none =>
    if actual.length ≠ expected.length then
      .error (.verification (Session.remappedLength + actual.length))
    else .ok ()

/-- Reads back what was written, from the remapped vectors on. -/
def verifyFlash (part : Part) (data : Bytes) : Dialogue Unit := do
  if data.length ≤ Session.remappedLength then return ()
  else
    let expected := data.drop Session.remappedLength
    let actual ← readMemory (part.flashBase + Session.remappedLength.toUInt32)
      expected.length.toUInt32 part.encoding
    ofExcept (settleReadBack expected actual)

/-- Carries out a plan. -/
def carryOut (part : Part) (plan : Plan) (verify : Bool) : Dialogue Unit := do
  eraseFlash part
  (programBlocks part plan.blockSize 0 plan.blocks).mapFailure Failure.whileFlashing
  if verify then verifyFlash part plan.data else pure ()

def flash (part : Part) (image : Image) (mode : UserCode) (verify : Bool) : Dialogue Unit := do
  let plan ← ofExcept (Plan.make part image mode)
  carryOut part plan verify

end Dialogue

/-! ## Sessions -/

namespace Session

variable [Transport δ]

theorem clearSector_follows (sector : UInt32) :
    Follows (clearSector sector : SessionM δ Bool) (Dialogue.clearSector sector) := by
  refine (blankCheck_follows _ _).bind fun found => ?_
  cases found with
  | blank => exact (silent_notify _).then (follows_pure false)
  | used offset content =>
    refine (silent_notify _).then ((prepareForWrite_follows _ _).bind fun _ => ?_)
    exact (eraseSectors_follows _ _).bind fun _ => follows_pure true

theorem clearSectors_follows (progress : Bool) (sector : UInt32) (left : Nat) :
    Follows (clearSectors progress sector left : SessionM δ Nat)
      (Dialogue.clearSectors sector left) := by
  induction left generalizing sector with
  | zero => exact follows_pure 0
  | succ left ih =>
    refine (clearSector_follows sector).bind fun erased => (silent_report _ _).then ?_
    exact (ih _).bind fun n => follows_pure _

theorem eraseFlash_follows (part : Part) (progress : Bool) :
    Follows (eraseFlash part progress : SessionM δ Unit) (Dialogue.eraseFlash part) := by
  refine (command_follows _).bind fun _ => (silent_report _ _).then ?_
  refine (clearSectors_follows _ _ _).bind fun erased => (silent_report _ _).then ?_
  exact (follows_pure ()).silent fun _ => silent_notify _

theorem programBlock_follows (part : Part) (blockSize : UInt32) (index : Nat) (block : Bytes) :
    Follows (programBlock part blockSize index block : SessionM δ Unit)
      (Dialogue.programBlock part blockSize index block) := by
  refine (silent_notify _).then ((prepareForWrite_follows _ _).bind fun _ => ?_)
  exact (writeToRam_follows _ _ _).bind fun _ => copyRamToFlash_follows _ _ _

theorem programBlocks_follows (part : Part) (blockSize : UInt32) (progress : Bool) (index : Nat)
    (blocks : List Bytes) :
    Follows (programBlocks part blockSize progress index blocks : SessionM δ Unit)
      (Dialogue.programBlocks part blockSize index blocks) := by
  induction blocks generalizing index with
  | nil => exact follows_pure ()
  | cons block rest ih =>
    refine (programBlock_follows _ _ _ _).bind fun _ => ?_
    exact (silent_report _ _).then (ih _)

theorem programFlash_follows (part : Part) (plan : Plan) (progress : Bool) :
    Follows (programFlash part plan progress : SessionM δ Unit)
      (Dialogue.programBlocks part plan.blockSize 0 plan.blocks) := by
  refine (silent_notify _).then ((silent_report _ _).then ?_)
  rw [← Dialogue.bind_pure (Dialogue.programBlocks _ _ _ _)]
  exact (programBlocks_follows _ _ _ _ _).silent fun _ => silent_report _ _

theorem verifyFlash_follows (part : Part) (data : Bytes) (progress : Bool) :
    Follows (verifyFlash part data progress : SessionM δ Unit)
      (Dialogue.verifyFlash part data) := by
  unfold verifyFlash Dialogue.verifyFlash
  by_cases short : data.length ≤ remappedLength
  · simp only [short, ↓reduceIte]
    exact (follows_pure ()).silent fun _ => silent_notify _
  · simp only [short, ↓reduceIte]
    refine (readMemory_follows _ _ _ _).bind fun actual => ?_
    unfold Dialogue.settleReadBack
    cases Bytes.firstDifference (data.drop remappedLength) actual with
    | some offset => exact follows_throw _
    | none =>
      by_cases whole : actual.length = (data.drop remappedLength).length
      · simp only [whole, ne_eq, not_true_eq_false, ↓reduceIte]
        exact (follows_pure ()).silent fun _ => silent_notify _
      · simp only [whole, ne_eq, not_false_eq_true, ↓reduceIte]
        exact follows_throw _

end Session

/-! ## Programmers -/

namespace Programmer

theorem onSession_follows {action : SessionM δ α} {p : Dialogue α} (h : Follows action p) :
    Follows (onSession action) p := fun P => h P.session

theorem silent_onSession {action : SessionM δ Unit} (h : Silent action) :
    Silent (onSession action) := by
  intro P
  obtain ⟨s', run, hcalls, hheld⟩ := h P.session
  exact ⟨{ P with session := s' }, by rw [onSession, run], hcalls, hheld⟩

theorem silent_enterStage (stage : Stage) : Silent (enterStage stage : ProgrammerM δ Unit) :=
  fun _ => ⟨_, rfl, rfl, rfl⟩

theorem enterStage_apply (stage : Stage) (P : Programmer δ) :
    (enterStage stage : ProgrammerM δ Unit) P = (.ok (), { P with stage := stage }) := rfl

/-- An operation on the flash says what its action says. -/
theorem operation_followsAt {first : Stage} {action : ProgrammerM δ α} {p : Dialogue α}
    {P : Programmer δ} (h : FollowsAt action p { P with stage := first }) :
    FollowsAt (operation first action) p P := by
  refine .after (enterStage_apply first P) rfl rfl ?_
  rcases run : action { P with stage := first } with ⟨failure | a, P'⟩
  · obtain ⟨P'', told, hcalls, hheld⟩ :=
      silent_onSession (Session.silent_notify (.failedWhile P'.stage.name)) P'
    refine h.wrap ?_ ?_ (fun _ => rfl) (fun _ => id) (fun input rest ending => ?_)
      fun f result isBreak => ?_
    all_goals
      simp only [run_bind, run_tryCatch, run_get, run_throw, enterStage_apply, run, told] at *
    · exact hcalls
    · exact hheld
    · exact ending
    · exact ⟨f, result, isBreak⟩
  · refine h.wrap ?_ ?_ (fun _ => rfl) (fun _ => id) (fun input rest ending => ?_)
      fun f result _ => ?_
    all_goals simp only [run_bind, run_tryCatch, enterStage_apply, run] at *
    · rfl
    · rfl
    · exact ending
    · cases result

variable [Transport δ]

/-- **What a programmer says when it programs an image** depends on its part, the image and
    the two settings only, and then on what it hears. -/
theorem flash_followsAt (image : Image) (mode : UserCode) (verify progress : Bool)
    (P : Programmer δ) :
    FollowsAt (flash image mode verify progress) (Dialogue.flash P.part image mode verify) P := by
  refine operation_followsAt ?_
  have told (notices : List Notice) :
      Silent (onSession (notices.forM Session.notify) : ProgrammerM δ Unit) := by
    refine silent_onSession ?_
    induction notices with
    | nil => exact silent_pure
    | cons notice rest ih =>
      intro s
      obtain ⟨s₁, run, hcalls, hheld⟩ := Session.silent_notify notice s
      obtain ⟨s₂, run', hcalls', hheld'⟩ := ih s₁
      refine ⟨s₂, ?_, hcalls'.trans hcalls, hheld'.trans hheld⟩
      show (Session.notify notice >>= fun _ => rest.forM Session.notify) s = _
      rw [run_bind, run]
      exact run'
  have settled (plan : Plan) : Follows (do
      enterStage .erasing
      onSession (Session.eraseFlash P.part progress)
      enterStage .programming
      onSession (Session.whileFlashing (Session.programFlash P.part plan progress))
      if verify then
        enterStage .verifying
        onSession (Session.verifyFlash P.part plan.data progress) : ProgrammerM δ Unit)
      (Dialogue.carryOut P.part plan verify) := by
    refine (silent_enterStage _).then ?_
    refine (onSession_follows (Session.eraseFlash_follows _ _)).bind fun _ => ?_
    refine (silent_enterStage _).then ?_
    have programming := Session.whileFlashing_follows (δ := δ)
      (Session.programFlash_follows P.part plan progress)
    refine (onSession_follows programming).bind fun _ => ?_
    cases verify with
    | false => exact follows_pure ()
    | true =>
      exact (silent_enterStage _).then
        (onSession_follows (Session.verifyFlash_follows _ _ _))
  refine .get (Silent.then (told _) (Follows.bind ?_ settled) _)
  exact onSession_follows (Session.ofExcept_follows _)

end Programmer
end SerialIsp
