import SerialIsp.Proofs.Device.Hearing

/-!
# The commands of a programming run

A device that is programmed hears one kind of commands while the flash is cleared, another one
while blocks are written, and one more when the flash is read back. `Plan.Allows` lists them,
each with what has to be true of the commands before it: what is erased was prepared, and the
block that is copied is the next one, staged after the sector of its first byte was prepared.

The numbers are those that are computed, modulo 2^32. Nothing is asked of the geometry of the
part, so that what a geometry is worth can be told from what follows with it and what follows
without.
-/

namespace SerialIsp

open Wire

/-! ## What was done so far -/

/-- The sectors that stand prepared after one more command. A preparation is used up by what it
    was made for. -/
def Wire.Command.prepare (c : Command) (sectors : Option (UInt32 × UInt32)) :
    Option (UInt32 × UInt32) :=
  match c with
  | .prepareForWrite first last => some (first, last)
  | .erase .. | .copyRamToFlash .. => none
  | _ => sectors

/-- The sectors that stand prepared after some commands, from the first to the last of them. -/
def prepared (given : List Command) : Option (UInt32 × UInt32) :=
  given.foldl (fun sectors c => c.prepare sectors) none

def Wire.Command.isCopy : Command → Bool
  | .copyRamToFlash .. => true
  | _ => false

/-- The number of copies to flash among some commands. -/
def copied (given : List Command) : Nat := given.countP Command.isCopy

theorem prepared_concat (given : List Command) (c : Command) :
    prepared (given ++ [c]) = c.prepare (prepared given) := by
  rw [prepared, List.foldl_append]
  rfl

theorem copied_concat (given : List Command) (c : Command) :
    copied (given ++ [c]) = if c.isCopy then copied given + 1 else copied given := by
  rw [copied, List.countP_append, List.countP_singleton]
  split <;> rfl

theorem exists_copy_of_lt {given cs : List Command} {n : Nat} (le : copied given ≤ n)
    (h : n < copied (given ++ cs)) : ∃ pre target source size post,
      cs = pre ++ .copyRamToFlash target source size :: post ∧ copied (given ++ pre) = n := by
  induction cs generalizing given with
  | nil =>
    rw [List.append_nil] at h
    exact absurd h (Nat.not_lt.mpr le)
  | cons c cs ih =>
    rw [List.append_cons] at h
    -- the copy is the first command that passes the number
    by_cases passed : copied (given ++ [c]) ≤ n
    · obtain ⟨pre, target, source, size, post, rfl, number⟩ := ih passed h
      refine ⟨c :: pre, target, source, size, post, rfl, ?_⟩
      rwa [List.append_cons]
    · rw [copied_concat] at passed
      cases c with
      | copyRamToFlash target source size =>
        have one : ¬ copied given + 1 ≤ n := passed
        exact ⟨[], target, source, size, cs, rfl, by rw [List.append_nil]; omega⟩
      | _ => exact absurd le passed

/-! ## The commands -/

namespace Plan

/-- **The commands of a plan**, each behind those before it. Blocks are numbered by the copies
    that were made. -/
inductive Allows (part : Part) (plan : Plan) (given : List Command) : Command → Prop where
  | unlock : Allows part plan given .unlock
  | look {sector : UInt32} (h : sector < part.flashSectors) :
    Allows part plan given (.blankCheck sector sector)
  | prepareToErase {sector : UInt32} (h : sector < part.flashSectors)
    (looked : given.getLast? = some (.blankCheck sector sector)) :
    Allows part plan given (.prepareForWrite sector sector)
  | erase {sector : UInt32} (h : sector < part.flashSectors)
    (ready : prepared given = some (sector, sector)) :
    Allows part plan given (.erase sector sector)
  | prepareToWrite {index : Nat} (number : copied given = index) (h : index < plan.count) :
    Allows part plan given
      (.prepareForWrite (plan.sectorOf part index) (plan.sectorOf part index))
  | stage {index : Nat} (number : copied given = index) (h : index < plan.count)
    (ready : prepared given = some (plan.sectorOf part index, plan.sectorOf part index)) :
    Allows part plan given (.writeToRam part.ramBufferAddress plan.blockSize)
  | copy {index : Nat} (number : copied given = index) (h : index < plan.count)
    (ready : prepared given = some (plan.sectorOf part index, plan.sectorOf part index)) :
    Allows part plan given
      (.copyRamToFlash (part.flashBase + plan.offsetOf index) part.ramBufferAddress
        plan.blockSize)
  | readBack (h : Session.remappedLength < plan.data.length) :
    Allows part plan given (.readMemory (part.flashBase + Session.remappedLength.toUInt32)
      (plan.data.drop Session.remappedLength).length.toUInt32)

theorem Fits.toNat_readLength {part : Part} {plan : Plan} (fits : plan.Fits part) :
    (plan.data.drop Session.remappedLength).length.toUInt32.toNat =
      plan.data.length - Session.remappedLength := by
  have le := Nat.le_trans (Nat.sub_le _ Session.remappedLength) fits.inFlash
  rw [List.length_drop]
  exact UInt32.toNat_ofNat_of_lt' (Nat.lt_of_le_of_lt le part.flashSize.toNat_lt)

end Plan

/-! ## Dialogues -/

variable {part : Part} {plan : Plan}

namespace Dialogue

theorem verifyFlash_of_le (part : Part) {data : Bytes}
    (short : data.length ≤ Session.remappedLength) : verifyFlash part data = pure () :=
  if_pos short

theorem verifyFlash_saysOnly (part : Part) (data : Bytes) :
    SaysOnly (Reading (part.flashBase + Session.remappedLength.toUInt32)
      (data.drop Session.remappedLength).length.toUInt32) (verifyFlash part data) := by
  unfold verifyFlash
  split
  · exact .pure ()
  · exact (readMemory_saysOnly _ _ _).bind fun _ => .ofExcept _

end Dialogue

namespace Orderly

theorem clearSector {sector : UInt32} (h : sector < part.flashSectors) {given : List Command} :
    Orderly part (plan.Allows part) (Task.clear sector).course none given fun _ i g =>
      i = none ∧ copied g = copied given := by
  have ready : prepared (given ++ [.blankCheck sector sector] ++
      [.prepareForWrite sector sector]) = some (sector, sector) := by
    rw [prepared_concat]
    rfl
  have looked : (given ++ [Command.blankCheck sector sector]).getLast? =
      some (.blankCheck sector sector) := List.getLast?_concat ..
  refine (clear (.look h) (.prepareToErase h looked) (.erase h ready)).mono fun _ i g known => ?_
  obtain ⟨idle, rfl | rfl⟩ := known
  · exact ⟨idle, copied_concat ..⟩
  · exact ⟨idle, by rw [copied_concat, copied_concat, copied_concat]; rfl⟩

theorem eraseFlash : Orderly part (plan.Allows part) (Dialogue.eraseFlash part) none []
    fun _ i g => i = none ∧ copied g = 0 := by
  have sectors (n : Nat) (le : n ≤ part.flashSectors.toNat) {given : List Command}
      (start : copied given = 0) :
      Orderly part (plan.Allows part)
        (perform ((List.range n).map fun s => .clear s.toUInt32)) none given
        fun _ i g => i = none ∧ copied g = 0 := by
    induction n with
    | zero => exact .pure ⟨rfl, start⟩
    | succ n ih =>
      have number : n.toUInt32.toNat = n := UInt32.toNat_ofNat_of_lt'
        (Nat.lt_of_lt_of_le le (Nat.le_of_lt part.flashSectors.toNat_lt))
      have inside : n.toUInt32 < part.flashSectors := by
        rw [UInt32.lt_iff_toNat_lt, number]
        exact le
      rw [List.range_succ, List.map_append, perform_append, List.map_singleton, perform_singleton]
      refine (ih (by omega)).bind fun _ i g known => ?_
      obtain ⟨rfl, counted⟩ := known
      rw [← counted]
      exact clearSector inside
  refine .of_alike (Dialogue.eraseFlash_alike part) ?_
  refine (command .unlock (by simp [Command.kind])).bind fun _ i g known => ?_
  obtain ⟨rfl, rfl⟩ := known
  exact sectors _ (Nat.le_refl _) rfl

/-- **One block** is staged and copied behind the preparation of its sector. -/
theorem programBlock (fits : plan.Fits part) {given : List Command} {index : Nat}
    (number : copied given = index) (h : index < plan.count) {b : Bytes}
    (length : b.length = plan.blockSize.toNat) :
    Orderly part (plan.Allows part) (Dialogue.programBlock part plan.blockSize index b) none given
      fun _ i g => i = none ∧ copied g = index + 1 := by
  have ne : b ≠ [] := by
    rw [← List.length_pos_iff, length]
    exact fits.blockSize_pos
  have staged (g : List Command) : Orderly part (plan.Allows part) _ _ g _ :=
    staging part.ramBufferAddress.toNat ne
  rw [length] at staged
  rw [Dialogue.programBlock_eq_commands fits index length]
  refine (command (.prepareToWrite number h) (by simp [Command.kind])).bind fun _ i g known => ?_
  obtain ⟨rfl, rfl⟩ := known
  -- what is prepared stands until the copy, over the command that announces the block
  have ready := prepared_concat given
    (.prepareForWrite (plan.sectorOf part index) (plan.sectorOf part index))
  have same : copied (given ++ [.prepareForWrite (plan.sectorOf part index)
      (plan.sectorOf part index)]) = index := (copied_concat ..).trans number
  refine (command (.stage same h ready) (by simp [Command.kind])).bind fun _ i g known => ?_
  obtain ⟨rfl, rfl⟩ := known
  refine (staged _).bind fun _ i g known => ?_
  obtain ⟨rfl, rfl⟩ := known
  refine (command (.copy ((copied_concat ..).trans same) h ((prepared_concat ..).trans ready))
    (by simp [Command.kind])).mono fun _ i g known => ?_
  obtain ⟨idle, rfl⟩ := known
  refine ⟨idle, ?_⟩
  rw [copied_concat, copied_concat, same]
  rfl

theorem programBlocks (fits : plan.Fits part) {given : List Command} (start : copied given = 0) :
    Orderly part (plan.Allows part) (Dialogue.programBlocks part plan.blockSize 0 plan.blocks)
      none given fun _ i g => i = none ∧ copied g = plan.count := by
  -- from the middle on, since the blocks are numbered upwards
  have rest (left : Nat) {index : Nat} (last : index + left = plan.count) {given : List Command}
      (number : copied given = index) :
      Orderly part (plan.Allows part)
        (Dialogue.programBlocks part plan.blockSize index
          ((List.range' index left).map (Bytes.piece plan.blockSize.toNat plan.data)))
        none given fun _ i g => i = none ∧ copied g = plan.count := by
    induction left generalizing index given with
    | zero => exact .pure ⟨rfl, number.trans last⟩
    | succ left ih =>
      have h : index < plan.count := by omega
      rw [List.range'_succ, List.map_cons, Dialogue.programBlocks]
      refine (programBlock fits number h (fits.length_piece h)).bind fun _ i g known => ?_
      obtain ⟨rfl, number⟩ := known
      exact ih (by omega) number
  rw [fits.blocks_eq, List.range_eq_range']
  exact rest plan.count (Nat.zero_add _) start

/-- **Clearing and writing.** In the end, every block of the plan was copied. -/
theorem program (fits : plan.Fits part) :
    Orderly part (plan.Allows part) (do
      Dialogue.eraseFlash part
      (Dialogue.programBlocks part plan.blockSize 0 plan.blocks).mapFailure
        Failure.whileFlashing) none [] fun _ i g => i = none ∧ copied g = plan.count := by
  refine eraseFlash.bind fun _ i g known => ?_
  obtain ⟨rfl, start⟩ := known
  exact .of_alike (Dialogue.alike_mapFailure _ _) (programBlocks fits start)

end Orderly

namespace Keeps

theorem verifyFlash {given : List Command} :
    Keeps part (plan.Allows part) (Dialogue.verifyFlash part plan.data) none given := by
  by_cases long : Session.remappedLength < plan.data.length
  · exact .of_reading (Dialogue.verifyFlash_saysOnly part plan.data) fun _ => .readBack long
  · intro m input
    rw [Dialogue.verifyFlash_of_le _ (Nat.not_lt.mp long)]
    exact Keeps.pure () m input

/-- **A plan is carried out** with the commands it allows, whatever is answered to them. -/
theorem carryOut (fits : plan.Fits part) (verify : Bool) :
    Keeps part (plan.Allows part) (Dialogue.carryOut part plan verify) none [] := by
  rw [Dialogue.carryOut, ← Dialogue.bind_assoc]
  refine .bind (Orderly.program fits) fun _ i g known => ?_
  obtain ⟨rfl, -⟩ := known
  cases verify with
  | true => exact verifyFlash
  | false => exact Keeps.pure ()

end Keeps

/-! ## Runs -/

theorem Dialogue.flash_of_make {image : Image} {mode : UserCode}
    (made : Plan.make part image mode = .ok plan) (verify : Bool) :
    flash part image mode verify = carryOut part plan verify := by
  rw [flash, made]
  exact pure_bind ..

namespace Programmer

variable {δ : Type} [Transport δ]

section

variable {image : Image} {mode : UserCode} {verify progress : Bool} {P : Programmer δ}
  {cs : List Call}

/-- **In every run**, whatever the transport does, a device hears the commands of the plan and no
    other, each where the plan allows it. -/
theorem flash_inOrder (made : Plan.make P.part image mode = .ok plan)
    (ran : calls (flash image mode verify progress P).2 = calls P ++ cs) (m : Memory) :
    InOrder (plan.Allows P.part) []
      (Device.heard P.part (⟨m, none⟩, held P ++ received cs) (sent cs)) := by
  obtain ⟨ds, ran', -, ending⟩ := flash_followsAt image mode verify progress P
  obtain rfl : cs = ds := List.append_cancel_left (ran.symm.trans ran')
  rw [Dialogue.flash_of_make made] at ending
  have due := Keeps.carryOut (Plan.fits_of_make made) verify m (held P ++ received cs)
  exact due.of_prefix (Device.heard_prefix _ (sent_prefix_said ending))

/-- A run that succeeds has copied every block to its place. -/
theorem flash_copies_each (made : Plan.make P.part image mode = .ok plan)
    (ran : calls (flash image mode verify progress P).2 = calls P ++ cs)
    (ok : (flash image mode verify progress P).1 = .ok ()) (m : Memory) {index : Nat}
    (h : index < plan.count) :
    ∃ pre post, Device.heard P.part (⟨m, none⟩, held P ++ received cs) (sent cs) =
        pre ++ .copyRamToFlash (P.part.flashBase + plan.offsetOf index) P.part.ramBufferAddress
          plan.blockSize :: post ∧
      prepared pre = some (plan.sectorOf P.part index, plan.sectorOf P.part index) := by
  have order := flash_inOrder made ran m
  obtain ⟨ds, ran', -, ending⟩ := flash_followsAt image mode verify progress P
  obtain rfl : cs = ds := List.append_cancel_left (ran.symm.trans ran')
  have settled := Settled.of_unbroken ending fun _ failed => nomatch ok.symm.trans failed
  have course := settled.ended
  rw [ok, Dialogue.flash_of_make made, Dialogue.carryOut, ← Dialogue.bind_assoc] at course
  obtain ⟨_, words, mid, words', first, -, said⟩ := Dialogue.bind_eq_done course
  obtain ⟨d, -, -, all⟩ :=
    (Orderly.program (Plan.fits_of_make made)).ends m _ words _ mid first
  rw [← all] at h
  obtain ⟨pre, target, source, size, post, split, number⟩ := exists_copy_of_lt (Nat.zero_le _) h
  rw [said, Device.heard_append, split, List.append_assoc, List.cons_append] at order ⊢
  have allowed := order.proper_of_split rfl
  cases allowed with
  | copy number' _ ready =>
    obtain rfl := number.symm.trans number'
    exact ⟨pre, _, rfl, ready⟩

end

end Programmer
end SerialIsp
