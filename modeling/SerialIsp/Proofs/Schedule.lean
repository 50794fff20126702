import SerialIsp.Proofs.Dialogue.Flash
import SerialIsp.Proofs.Plans
import SerialIsp.Session.Scripted

/-!
# The order of writes while programming

A flash is programmed by a fixed list of tasks, one after the other: unlock, look at every
sector and erase it where it is used, then for every block prepare its sector, stage the block
in RAM and copy it. `schedule` writes that list down, with all numbers as plain naturals, and
`Task.course` says what is exchanged for one task. The next task begins when the one before
has come to its end, so a write stands behind every answer that has to be given first.

What is shown is that a programmer keeps to the schedule whatever it hears, whatever the
transport does, and at every single call: no write is made before it is due, none is left out
or made twice, and a call that the transport does not carry out in full is the last one.
-/

namespace SerialIsp

open Wire

/-! ## Tasks -/

/-- A part of programming a flash. -/
inductive Task where
  /-- A command that has to be answered with status 0. -/
  | command (c : Command)
  /-- A look at a sector, which is erased when it turns out to be used. -/
  | clear (sector : UInt32)
  /-- A block in printable lines, which is sent again until it is answered with `OK`. -/
  | frame (number : Nat) (block : Bytes)
  /-- Bytes as they are, to which there is no answer. -/
  | payload (b : Bytes)
  /-- A read of memory that has to give what is expected. -/
  | readBack (address : UInt32) (expected : Bytes) (encoding : Encoding)

/-- What is said and heard for a task. -/
def Task.course : Task → Dialogue Unit
  | .command c => Dialogue.command c
  | .clear sector => do
    match ← Dialogue.commandStatus (.blankCheck sector sector) with
    | .known .cmdSuccess => return ()
    | .known .sectorNotBlank =>
      -- the first word that is not blank is told, by its offset and its content
      let _ ← Dialogue.number
      let _ ← Dialogue.number
      Dialogue.command (.prepareForWrite sector sector)
      Dialogue.command (.erase sector sector)
    | status => Dialogue.fail (.refused .blankCheck status)
  | .frame number block =>
    Dialogue.untilArrived number (Dialogue.sendFrame (blockFrame block)) (pure ()) maxResends
  | .payload b => Dialogue.say b
  | .readBack address expected encoding => do
    let actual ← Dialogue.readMemory address expected.length.toUInt32 encoding
    if actual = expected then return () else Dialogue.fail (.verification 0)

/-- Tasks one after the other, up to the first that fails. -/
def perform : List Task → Dialogue Unit
  | [] => return ()
  | task :: rest => do
    task.course
    perform rest

/-- The tasks that leave every sector of a part blank. -/
def clearing (part : Part) : List Task :=
  .command .unlock :: (List.range part.flashSectors.toNat).map fun sector =>
    .clear sector.toUInt32

/-- The tasks that bring a block into RAM, after the command that announces it. -/
def staging (encoding : Encoding) (block : Bytes) : List Task :=
  match encoding with
  | .lines => (Bytes.chunks blockCapacity block).mapIdx .frame
  | .raw => [.payload block]

/-- The tasks for block number `index` of a plan. -/
def blockTasks (part : Part) (plan : Plan) (index : Nat) : List Task :=
  let offset := index * plan.blockSize.toNat
  let sector := (offset / part.sectorSize.toNat).toUInt32
  let ram := part.ramBufferAddress
  [.command (.prepareForWrite sector sector), .command (.writeToRam ram plan.blockSize)] ++
    staging part.encoding (Bytes.piece plan.blockSize.toNat plan.data index) ++
    [.command (.copyRamToFlash (part.flashBase.toNat + offset).toUInt32 ram plan.blockSize)]

/-- The tasks that write the blocks of a plan, in order. -/
def writing (part : Part) (plan : Plan) : List Task :=
  (List.range plan.count).flatMap (blockTasks part plan)

/-- The tasks that read back what was written, apart from the vectors that are remapped. -/
def readingBack (part : Part) (plan : Plan) : List Task :=
  if Session.remappedLength < plan.data.length then
    [.readBack (part.flashBase + Session.remappedLength.toUInt32)
      (plan.data.drop Session.remappedLength) part.encoding]
  else []

/-- **The schedule** of a plan. -/
def schedule (part : Part) (plan : Plan) (verify : Bool) : List Task :=
  clearing part ++ writing part plan ++ if verify then readingBack part plan else []

/-- The writes that are due when a programmer of a part was asked to program an image and has
    heard `input`. Where there is no plan, there are none. -/
def due (part : Part) (image : Image) (mode : UserCode) (verify : Bool) (input : Bytes) :
    List Bytes :=
  match Plan.make part image mode with
  | .ok plan => (perform (schedule part plan verify) input).said
  | .error _ => []

/-! ## Tasks in sequence -/

theorem perform_append (tasks rest : List Task) :
    perform (tasks ++ rest) = (do perform tasks; perform rest) := by
  induction tasks with
  | nil => exact (Dialogue.pure_bind _ _).symm
  | cons task tasks ih =>
    rw [List.cons_append, perform, perform, ih, Dialogue.bind_assoc]

theorem perform_singleton (task : Task) : perform [task] = task.course := by
  rw [perform, perform]
  exact Dialogue.bind_pure _

/-! ## Keeping to the schedule -/

namespace Dialogue

/-- A dialogue whose value is not needed. -/
def toUnit {α : Type} (p : Dialogue α) : Dialogue Unit := p >>= fun _ => pure ()

theorem bind_eq_toUnit {α β : Type} (p : Dialogue α) (q : Dialogue β) :
    (p >>= fun _ => q) = p.toUnit >>= fun _ => q := by
  rw [toUnit, bind_assoc]
  rfl

theorem checkSectorRange_self (sector : UInt32) : checkSectorRange sector sector = .ok () :=
  if_neg (UInt32.lt_irrefl sector)

theorem prepareForWrite_self (sector : UInt32) :
    prepareForWrite sector sector = command (.prepareForWrite sector sector) := by
  rw [prepareForWrite, checkSectorRange_self]
  rfl

theorem eraseSectors_self (sector : UInt32) :
    eraseSectors sector sector = command (.erase sector sector) := by
  rw [eraseSectors, checkSectorRange_self]
  rfl

theorem clearSector_alike (sector : UInt32) :
    Alike (clearSector sector).toUnit (Task.clear sector).course := by
  -- a range of one sector passes its check
  simp only [toUnit, clearSector, blankCheck, Task.course, prepareForWrite_self,
    eraseSectors_self, checkSectorRange_self]
  simp only [bind_assoc, ofExcept]
  rw [pure_bind]
  refine .bind (.refl _) fun status => ?_
  cases status with
  | known code =>
    cases code with
    | cmdSuccess => exact .refl _
    | sectorNotBlank =>
      simp only [bind_assoc]
      refine .bind (.refl _) fun offset => .bind (.refl _) fun content => ?_
      simp only [pure_bind, bind_assoc]
      exact .bind (.refl _) fun _ => congrArg blot (bind_pure _)
    | _ => exact alike_fail _ _
  | unknown n => exact alike_fail _ _

theorem clearSectors_alike (sector left : Nat) :
    Alike (clearSectors sector.toUInt32 left).toUnit
      (perform ((List.range' sector left).map fun s => .clear s.toUInt32)) := by
  induction left generalizing sector with
  | zero => exact .refl _
  | succ left ih =>
    have next : sector.toUInt32 + 1 = (sector + 1).toUInt32 := (UInt32.ofNat_add sector 1).symm
    have split : (clearSectors sector.toUInt32 (left + 1)).toUnit =
        (clearSector sector.toUInt32).toUnit >>= fun _ =>
          (clearSectors (sector + 1).toUInt32 left).toUnit := by
      rw [← bind_eq_toUnit]
      simp only [toUnit, clearSectors, bind_assoc, pure_bind, next]
    rw [split, List.range'_succ, List.map_cons, perform]
    exact (clearSector_alike _).bind fun _ => ih _

theorem eraseFlash_alike (part : Part) : Alike (eraseFlash part) (perform (clearing part)) := by
  have tasks := clearSectors_alike 0 part.flashSectors.toNat
  rw [← List.range_eq_range'] at tasks
  exact .bind (.refl _) fun _ => tasks

/-! ### Writing -/

theorem writeBlocks_eq (block : Nat) (bs : List Bytes) :
    writeBlocks block bs = perform (bs.mapIdx fun i b => .frame (block + i) b) := by
  induction bs generalizing block with
  | nil => rfl
  | cons b rest ih =>
    rw [writeBlocks, ih, List.mapIdx_cons, perform]
    simp only [Nat.add_right_comm block, Nat.add_assoc, Nat.add_zero]
    rfl

theorem checkAlignment_of_dvd (operand : Operand) (alignment : UInt32) {value : UInt32}
    (h : alignment.toNat ∣ value.toNat) : checkAlignment operand value alignment = .ok () := by
  refine if_neg (Decidable.not_not.mpr (UInt32.toNat_inj.mp ?_))
  rw [UInt32.toNat_mod]
  exact Nat.mod_eq_zero_of_dvd h

theorem checkAlignment_buffer {part : Part} {plan : Plan} (fits : plan.Fits part)
    (operand : Operand) : checkAlignment operand part.ramBufferAddress 4 = .ok () :=
  if_neg (Decidable.not_not.mpr fits.aligned)

theorem deliver_eq (data : Bytes) (encoding : Encoding) :
    deliver data encoding = perform (staging encoding data) := by
  cases encoding with
  | raw => exact (perform_singleton (.payload data)).symm
  | lines =>
    rw [deliver, writeBlocks_eq, staging]
    simp only [Nat.zero_add]

theorem writeToRam_eq {part : Part} {plan : Plan} (fits : plan.Fits part) {b : Bytes}
    (length : b.length = plan.blockSize.toNat) :
    writeToRam part.ramBufferAddress b part.encoding =
      perform (.command (.writeToRam part.ramBufferAddress plan.blockSize) ::
        staging part.encoding b) := by
  have size : b.length.toUInt32 = plan.blockSize := by
    rw [length]
    exact UInt32.ofNat_toNat
  unfold writeToRam
  rw [checkAlignment_buffer fits, size,
    checkAlignment_of_dvd _ 4 (Plan.four_dvd_of_mem_writeSizes fits.size), perform, ← deliver_eq]
  cases part.encoding <;> rfl

/-- A block is written with three commands, and its staging before the last of them. -/
theorem programBlock_eq_commands {part : Part} {plan : Plan} (fits : plan.Fits part) (index : Nat)
    {b : Bytes} (length : b.length = plan.blockSize.toNat) :
    programBlock part plan.blockSize index b = (do
      command (.prepareForWrite (plan.sectorOf part index) (plan.sectorOf part index))
      command (.writeToRam part.ramBufferAddress plan.blockSize)
      perform (staging part.encoding b)
      command (.copyRamToFlash (part.flashBase + plan.offsetOf index) part.ramBufferAddress
        plan.blockSize)) := by
  rw [programBlock, prepareForWrite_self, writeToRam_eq fits length, copyRamToFlash,
    checkAlignment_buffer fits]
  simp only [perform, bind_assoc]
  rfl

theorem programBlock_eq {part : Part} {plan : Plan} (geometry : part.checkGeometry = .ok ())
    (fits : plan.Fits part) {index : Nat} (h : index < plan.count) :
    programBlock part plan.blockSize index (Bytes.piece plan.blockSize.toNat plan.data index) =
      perform (blockTasks part plan index) := by
  rw [programBlock_eq_commands fits index (fits.length_piece h), Plan.sectorOf, Plan.offsetOf,
    fits.sectorOf_offset geometry h, fits.flashBase_add_offset geometry h, blockTasks,
    perform_append, perform_append, perform_singleton]
  simp only [perform, bind_assoc]
  rfl

theorem programBlocks_eq {part : Part} {plan : Plan} (geometry : part.checkGeometry = .ok ())
    (fits : plan.Fits part) :
    programBlocks part plan.blockSize 0 plan.blocks = perform (writing part plan) := by
  -- `programBlocks` counts up and the list of tasks is made at once, so both are taken from the
  -- middle on
  have step (left index : Nat) (last : index + left = plan.count) :
      programBlocks part plan.blockSize index
        ((List.range' index left).map (Bytes.piece plan.blockSize.toNat plan.data)) =
      perform ((List.range' index left).flatMap (blockTasks part plan)) := by
    induction left generalizing index with
    | zero => rfl
    | succ left ih =>
      rw [List.range'_succ, List.map_cons, List.flatMap_cons, programBlocks, perform_append,
        programBlock_eq geometry fits (by omega), ih (index + 1) (by omega)]
  rw [fits.blocks_eq, writing, List.range_eq_range']
  exact step plan.count 0 (Nat.zero_add _)

/-! ### Reading back -/

theorem settleReadBack_eq_ok {expected actual : Bytes} :
    settleReadBack expected actual = .ok () ↔ actual = expected := by
  unfold settleReadBack
  constructor
  · intro settled
    split at settled
    · cases settled
    · next none =>
      split at settled
      · cases settled
      · next length =>
        have length := Decidable.not_not.mp length
        exact (Bytes.eq_of_firstDifference_eq_none length.symm none).symm
  · rintro rfl
    rw [Bytes.firstDifference_self]
    exact if_neg (not_not_intro rfl)

theorem verifyFlash_alike (part : Part) (plan : Plan) :
    Alike (verifyFlash part plan.data) (perform (readingBack part plan)) := by
  unfold verifyFlash readingBack
  by_cases short : plan.data.length ≤ Session.remappedLength
  · rw [if_pos short, if_neg (Nat.not_lt.mpr short)]
    exact .refl _
  · rw [if_neg short, if_pos (Nat.not_le.mp short), perform_singleton]
    refine .bind (.refl _) fun actual => ?_
    split
    · next same =>
      rw [settleReadBack_eq_ok.mpr same]
      exact .refl _
    · next other =>
      cases settled : settleReadBack (plan.data.drop Session.remappedLength) actual with
      | ok _ => exact absurd (settleReadBack_eq_ok.mp settled) other
      | error failure => exact alike_fail _ _

theorem carryOut_alike {part : Part} {plan : Plan} (geometry : part.checkGeometry = .ok ())
    (fits : plan.Fits part) (verify : Bool) :
    Alike (carryOut part plan verify) (perform (schedule part plan verify)) := by
  rw [schedule, perform_append, perform_append, Dialogue.bind_assoc]
  refine (eraseFlash_alike part).bind fun _ => .bind ?_ fun _ => ?_
  · rw [← programBlocks_eq geometry fits]
    exact alike_mapFailure _ _
  · cases verify with
    | false => exact .refl _
    | true => exact verifyFlash_alike part plan

/-- What a programmer says is what is due. -/
theorem said_flash {part : Part} (geometry : part.checkGeometry = .ok ()) (image : Image)
    (mode : UserCode) (verify : Bool) (input : Bytes) :
    (flash part image mode verify input).said = due part image mode verify input := by
  unfold flash due
  cases planned : Plan.make part image mode with
  | error failure => rfl
  | ok plan =>
    show ((pure plan >>= fun plan => carryOut part plan verify) input).said = _
    rw [pure_bind]
    exact (carryOut_alike geometry (Plan.fits_of_make planned) verify).said input

end Dialogue

/-! ## Every call -/

namespace Programmer

variable {δ : Type} [Transport δ]

/-- **A programmer keeps to the schedule**, over every transport. Each write is due on what was
    heard before it, and a call that the transport did not carry out in full is the last. -/
theorem flash_keeps_schedule (image : Image) (mode : UserCode) (verify progress : Bool)
    (P : Programmer δ) (geometry : P.part.checkGeometry = .ok ()) :
    ∃ cs, calls (flash image mode verify progress P).2 = calls P ++ cs ∧
      (∀ pre b outcome post, cs = pre ++ .write b outcome :: post →
        sent pre ++ [b] <+: due P.part image mode verify (held P ++ received pre)) ∧
      sent cs <+: due P.part image mode verify (held P ++ received cs) ∧
      ∀ c ∈ cs.dropLast, c.full := by
  obtain ⟨cs, ran, law, ending⟩ := flash_followsAt image mode verify progress P
  have said := Dialogue.said_flash geometry image mode verify
  refine ⟨cs, ran, fun pre b outcome post split => ?_, ?_, ?_⟩
  · rw [← said]
    exact law.writes split
  · rw [← said]
    exact sent_prefix_said ending
  · rcases ending with settled | broken
    · exact fun c hc => settled.full c ((List.dropLast_sublist cs).subset hc)
    · obtain ⟨pre, c, rfl, full, -⟩ := broken.last
      rw [List.dropLast_concat]
      exact full

/-- A programmer with a device of two sectors, of which the first is used. The device wants the
    one frame of the one block a second time. -/
def rehearsal : Programmer Scripted where
  session := Session.start
    { replies := ["0\r\n", "8\r\n0\r\n170\r\n", "0\r\n", "0\r\n", "0\r\n", "0\r\n", "0\r\n",
        "RESEND\r\n", "OK\r\n", "0\r\n"].map Bytes.ascii } {}
  part :=
    { id := 0, name := "LPC", flashBase := 0, flashSize := 128, flashSectors := 2,
      resetVectorOffset := 4, ramBase := 0x10000000, ramSize := 256, ramBufferOffset := 64,
      ramBufferSize := 64, encoding := .lines }

/-- In the rehearsal, all writes that are due are made. -/
theorem flash_keeps_schedule_rehearsed :
    rehearsal.part.checkGeometry = .ok () ∧
      ∃ cs, calls (flash ⟨[1, 2, 3]⟩ .compute true false rehearsal).2 = calls rehearsal ++ cs ∧
        (∀ pre b outcome post, cs = pre ++ .write b outcome :: post → sent pre ++ [b] <+:
          due rehearsal.part ⟨[1, 2, 3]⟩ .compute true (held rehearsal ++ received pre)) ∧
        sent cs <+: due rehearsal.part ⟨[1, 2, 3]⟩ .compute true (held rehearsal ++ received cs) ∧
        ∀ c ∈ cs.dropLast, c.full :=
  ⟨rfl, flash_keeps_schedule ⟨[1, 2, 3]⟩ .compute true false rehearsal rfl⟩

end Programmer
end SerialIsp
