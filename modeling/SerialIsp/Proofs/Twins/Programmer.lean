import SerialIsp.Proofs.Twins.Session

/-!
# What twin programmers do

Programmers are twins when their sessions are, and when they have the same part and have come
to the same stage. Every operation on the flash agrees with itself on them, with or without
reports of its progress.
-/

namespace SerialIsp

open Wire

variable {α δ ε : Type} [Transport δ] [Transport ε] {κ : Session.Kinship δ ε}

namespace Session

variable (lasts : κ.Lasts)

/-! ## Flash operations of a session -/

omit [Transport δ] [Transport ε] in
theorem whileFlashing_agrees {action : SessionM δ α} {other : SessionM ε α}
    (h : Agree (Twins κ) action other) :
    Agree (Twins κ) (whileFlashing action) (whileFlashing other) := by
  refine agree_mapFailure (g := Failure.whileFlashing) h (fun s => ?_) fun t => ?_
  · rw [whileFlashing]
    rcases action s with ⟨_ | _, s'⟩ <;> rfl
  · rw [whileFlashing]
    rcases other t with ⟨_ | _, t'⟩ <;> rfl

omit [Transport δ] [Transport ε] in
theorem forM_notify_agrees (notices : List Notice) :
    Agree (Twins κ) (notices.forM notify) (notices.forM notify) := by
  induction notices with
  | nil => exact agree_pure _
  | cons notice notices ih => exact (notify_agrees notice).bind fun _ => ih

include lasts

theorem clearSector_agrees (sector : UInt32) :
    Agree (Twins κ) (clearSector sector) (clearSector sector) := by
  refine (blankCheck_agrees lasts _ _).bind fun found => ?_
  cases found with
  | blank => exact (notify_agrees _).bind fun _ => agree_pure _
  | used offset content =>
    refine (notify_agrees _).bind fun _ => (prepareForWrite_agrees lasts _ _).bind fun _ => ?_
    exact (eraseSectors_agrees lasts _ _).bind fun _ => agree_pure _

theorem clearSectors_agrees (progress progress' : Bool) (sector : UInt32) (left : Nat) :
    Agree (Twins κ) (clearSectors progress sector left) (clearSectors progress' sector left) := by
  induction left generalizing sector with
  | zero => exact agree_pure 0
  | succ left ih =>
    refine (clearSector_agrees lasts sector).bind fun erased => ?_
    refine (report_agrees progress progress' _).bind fun _ => ?_
    exact (ih (sector + 1)).bind fun _ => agree_pure _

theorem eraseFlash_agrees (part : Part) (progress progress' : Bool) :
    Agree (Twins κ) (eraseFlash part progress) (eraseFlash part progress') := by
  refine (unlock_agrees lasts).bind fun _ => (report_agrees progress progress' _).bind fun _ => ?_
  refine (clearSectors_agrees lasts progress progress' _ _).bind fun erased => ?_
  exact (report_agrees progress progress' _).bind fun _ => notify_agrees _

theorem programBlock_agrees (part : Part) (blockSize : UInt32) (index : Nat) (block : Bytes) :
    Agree (Twins κ) (programBlock part blockSize index block)
      (programBlock part blockSize index block) := by
  refine (notify_agrees _).bind fun _ => (prepareForWrite_agrees lasts _ _).bind fun _ => ?_
  exact (writeToRam_agrees lasts _ _ _).bind fun _ => copyRamToFlash_agrees lasts _ _ _

theorem programBlocks_agrees (part : Part) (blockSize : UInt32) (progress progress' : Bool)
    (index : Nat) (blocks : List Bytes) :
    Agree (Twins κ) (programBlocks part blockSize progress index blocks)
      (programBlocks part blockSize progress' index blocks) := by
  induction blocks generalizing index with
  | nil => exact agree_pure ()
  | cons block blocks ih =>
    refine (programBlock_agrees lasts part blockSize index block).bind fun _ => ?_
    exact (report_agrees progress progress' _).bind fun _ => ih (index + 1)

theorem programFlash_agrees (part : Part) (plan : Plan) (progress progress' : Bool) :
    Agree (Twins κ) (programFlash part plan progress) (programFlash part plan progress') := by
  refine (notify_agrees _).bind fun _ => (report_agrees progress progress' _).bind fun _ => ?_
  refine (programBlocks_agrees lasts part _ progress progress' _ _).bind fun _ => ?_
  exact report_agrees progress progress' _

theorem verifyFlash_agrees (part : Part) (data : Bytes) (progress progress' : Bool) :
    Agree (Twins κ) (verifyFlash part data progress) (verifyFlash part data progress') := by
  refine .ite (fun _ => notify_agrees _) fun _ => ?_
  refine (readMemory_agrees lasts _ _ _ progress progress').bind fun actual => ?_
  split
  · exact agree_throw _
  · exact .ite (fun _ => (agree_throw _).bind fun _ => notify_agrees _) fun _ => notify_agrees _

theorem readFlash_agrees (part : Part) (progress progress' : Bool) :
    Agree (Twins κ) (readFlash part progress) (readFlash part progress') := by
  refine (readMemory_agrees lasts _ _ _ progress progress').bind fun data => ?_
  exact .ite (fun _ => (agree_throw _).bind fun _ => agree_pure data) fun _ => agree_pure data

theorem execute_agrees (part : Part) : Agree (Twins κ) (execute part) (execute part) := by
  refine (readMemory_agrees lasts _ _ _ false false).bind fun vector => ?_
  -- what is done with an entry, whatever its mode
  have started (mode : ExecutionMode) (address : UInt32) : Agree (Twins κ) (do
      unlock
      go address mode
      notify (.started address mode)
      return (address, mode)) (do
      unlock
      go address mode
      notify (.started address mode)
      return (address, mode)) := by
    refine (unlock_agrees lasts).bind fun _ => (go_agrees lasts address mode).bind fun _ => ?_
    exact (notify_agrees _).bind fun _ => agree_pure _
  have checked := fun (mode : ExecutionMode) (address : UInt32) =>
    Agree.ite (c := address < lowestEntry)
      (fun _ => (agree_throw (.jumpAddress address)).bind fun _ : Unit => started mode address)
      fun _ => started mode address
  exact .ite (fun _ => (agree_throw _).bind fun _ => checked _ _) fun _ => checked _ _

end Session

/-! ## Programmers -/

namespace Programmer

/-- **Twins** among programmers. -/
structure Twins (κ : Session.Kinship δ ε) (p : Programmer δ) (q : Programmer ε) : Prop where
  session : Session.Twins κ p.session q.session
  part : p.part = q.part
  stage : p.stage = q.stage

section

omit [Transport δ] [Transport ε]

theorem onSession_agrees {action : SessionM δ α} {other : SessionM ε α}
    (h : Agree (Session.Twins κ) action other) :
    Agree (Twins κ) (onSession action) (onSession other) := by
  intro p q twins
  obtain ⟨same, related⟩ := h _ _ twins.session
  exact ⟨same, related, twins.part, twins.stage⟩

theorem enterStage_agrees (stage : Stage) :
    Agree (Twins κ) (enterStage stage) (enterStage stage) :=
  fun _ _ twins => ⟨rfl, twins.session, twins.part, rfl⟩

/-- What is done with the part is the same part on either side. -/
theorem agree_part {next : Part → ProgrammerM δ α} {next' : Part → ProgrammerM ε α}
    (h : ∀ part, Agree (Twins κ) (next part) (next' part)) :
    Agree (Twins κ) (do next (← get).part) (do next' (← get).part) :=
  .get fun p q twins => by
    rw [twins.part]
    exact h _

theorem operation_agrees {first : Stage} {action : ProgrammerM δ α} {other : ProgrammerM ε α}
    (h : Agree (Twins κ) action other) :
    Agree (Twins κ) (operation first action) (operation first other) := by
  refine (enterStage_agrees first).bind fun _ =>
    Agree.bind (Agree.tryCatch ?_ fun failure => ?_) fun ended => ?_
  · exact h.bind fun a => (enterStage_agrees _).bind fun _ => agree_pure _
  · refine .get fun p q twins => ?_
    rw [twins.stage]
    refine (onSession_agrees (Session.notify_agrees _)).bind fun _ => ?_
    exact (enterStage_agrees _).bind fun _ => (agree_throw failure).bind fun _ => agree_pure _
  · cases ended <;> exact agree_pure _

end

variable (lasts : κ.Lasts)

include lasts

theorem deviceInfo_agrees : Agree (Twins κ) deviceInfo deviceInfo :=
  agree_part fun part => onSession_agrees (Session.deviceInfo_agrees lasts part)

theorem readFlash_agrees (progress progress' : Bool) :
    Agree (Twins κ) (readFlash progress) (readFlash progress') :=
  agree_part fun part => onSession_agrees (Session.readFlash_agrees lasts part progress progress')

theorem erase_agrees (progress progress' : Bool) :
    Agree (Twins κ) (erase progress) (erase progress') :=
  operation_agrees (agree_part fun part =>
    onSession_agrees (Session.eraseFlash_agrees lasts part progress progress'))

theorem execute_agrees : Agree (Twins κ) execute execute :=
  agree_part fun part => onSession_agrees (Session.execute_agrees lasts part)

theorem flash_agrees (image : Image) (mode : UserCode) (verify progress progress' : Bool) :
    Agree (Twins κ) (flash image mode verify progress) (flash image mode verify progress') := by
  refine operation_agrees (.get fun p q twins => ?_)
  rw [twins.part]
  generalize q.part = part
  refine (onSession_agrees (Session.forM_notify_agrees _)).bind fun _ => ?_
  refine (onSession_agrees (Session.ofExcept_agrees _)).bind fun plan => ?_
  refine (enterStage_agrees _).bind fun _ => ?_
  have erased := Session.eraseFlash_agrees lasts part progress progress'
  refine (onSession_agrees erased).bind fun _ => ?_
  refine (enterStage_agrees _).bind fun _ => ?_
  refine (onSession_agrees (Session.whileFlashing_agrees
    (Session.programFlash_agrees lasts part plan progress progress'))).bind fun _ => ?_
  refine .ite (fun _ => (enterStage_agrees _).bind fun _ => ?_) fun _ => agree_pure ()
  exact onSession_agrees (Session.verifyFlash_agrees lasts part plan.data progress progress')

/-- What is put into a sink depends on what was read, and on the sink. -/
theorem dump_agrees (sink : Sink) (progress progress' : Bool) {p : Programmer δ}
    {q : Programmer ε} (twins : Twins κ p q) :
    (dump sink progress p).1 = (dump sink progress' q).1 ∧
      Twins κ (dump sink progress p).2 (dump sink progress' q).2 := by
  obtain ⟨same, related⟩ := readFlash_agrees lasts progress progress' p q twins
  rw [dump, dump]
  rcases run : readFlash progress p with ⟨result, p'⟩
  rcases run' : readFlash progress' q with ⟨result', q'⟩
  rw [run, run'] at same related
  obtain rfl : result = result' := same
  cases result with
  | error failure => exact ⟨rfl, related⟩
  | ok data =>
    dsimp only
    rcases sink.put data with ⟨fault | _, sink'⟩
    · exact ⟨rfl, related⟩
    · exact ⟨rfl, (onSession_agrees (Session.notify_agrees _) p' q' related).2⟩

end Programmer

end SerialIsp
