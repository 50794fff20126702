import SerialIsp.Part.Catalog
import SerialIsp.Proofs.Device.Conduct

/-!
# Where a programming run reads and writes

Three things are settled from the commands that a device hears. What is read or copied lies in
the flash, and no number on the way to it is cut off, since a geometry that passed its check
leaves room for all of them. A block starts in the sector that was prepared for it, but it ends
there only where blocks tile the sectors, which no check asks for. And what is staged lies in
the RAM unless the address of the buffer wraps around, which the check of the buffer does not
see, as it counts without bound.
-/

namespace SerialIsp

open Wire

/-- A range of addresses lies in the flash. -/
def Part.Holds (part : Part) (address size : UInt32) : Prop :=
  part.flashBase.toNat ≤ address.toNat ∧
    address.toNat + size.toNat ≤ part.flashBase.toNat + part.flashSize.toNat

/-! ## Numbers -/

namespace Plan

/-- **No number is cut off** of those that are computed while a plan is carried out: for its
    blocks, and to read them back. -/
structure Exact (part : Part) (plan : Plan) : Prop where
  index : ∀ i < plan.blocks.length, i.toUInt32.toNat = i
  offset : ∀ i < plan.blocks.length,
    (i.toUInt32 * plan.blockSize).toNat = i * plan.blockSize.toNat
  address : ∀ i < plan.blocks.length,
    (part.flashBase + i.toUInt32 * plan.blockSize).toNat =
      part.flashBase.toNat + i * plan.blockSize.toNat
  length : ∀ b ∈ plan.blocks, b.length.toUInt32.toNat = b.length
  readAddress : Session.remappedLength < plan.data.length →
    (part.flashBase + Session.remappedLength.toUInt32).toNat =
      part.flashBase.toNat + Session.remappedLength
  readLength : Session.remappedLength < plan.data.length →
    (plan.data.drop Session.remappedLength).length.toUInt32.toNat =
      plan.data.length - Session.remappedLength

variable {part : Part} {plan : Plan}

theorem Fits.length_blocks (fits : plan.Fits part) : plan.blocks.length = plan.count := by
  rw [fits.blocks_eq, List.length_map, List.length_range]

theorem Fits.toNat_address (geometry : part.checkGeometry = .ok ()) (fits : plan.Fits part)
    {i : Nat} (h : i < plan.count) :
    (part.flashBase + plan.offsetOf i).toNat =
      part.flashBase.toNat + i * plan.blockSize.toNat := by
  rw [offsetOf, fits.flashBase_add_offset geometry h]
  exact UInt32.toNat_ofNat_of_lt' (fits.offset_lt geometry h).2

theorem Fits.toNat_sectorOf (geometry : part.checkGeometry = .ok ()) (fits : plan.Fits part)
    {i : Nat} (h : i < plan.count) :
    (plan.sectorOf part i).toNat = i * plan.blockSize.toNat / part.sectorSize.toNat := by
  rw [sectorOf, Part.sectorOf, Part.max_one fits.sectorSize_pos, UInt32.toNat_div, offsetOf,
    fits.toNat_offset geometry h]

theorem Fits.toNat_readAddress (geometry : part.checkGeometry = .ok ()) (fits : plan.Fits part)
    (long : Session.remappedLength < plan.data.length) :
    (part.flashBase + Session.remappedLength.toUInt32).toNat =
      part.flashBase.toNat + Session.remappedLength := by
  have room := fits.inFlash
  have := Part.flash_lt geometry
  have lt : part.flashBase.toNat + Session.remappedLength < UInt32.size := by omega
  rw [UInt32.toNat_add]
  exact Nat.mod_eq_of_lt lt

theorem Fits.exact (geometry : part.checkGeometry = .ok ()) (fits : plan.Fits part) :
    plan.Exact part := by
  have number := fits.length_blocks
  exact
    { index := fun i h => by
        have := fits.offset_lt geometry (number ▸ h)
        have : i ≤ i * plan.blockSize.toNat := Nat.le_mul_of_pos_right i fits.blockSize_pos
        exact UInt32.toNat_ofNat_of_lt' (by omega)
      offset := fun i h => fits.toNat_offset geometry (number ▸ h)
      address := fun i h => fits.toNat_address geometry (number ▸ h)
      length := fun b mem => by
        rw [fits.blocks_eq] at mem
        obtain ⟨i, h, rfl⟩ := List.mem_map.mp mem
        rw [fits.length_piece (List.mem_range.mp h)]
        exact UInt32.toNat_ofNat_of_lt' plan.blockSize.toNat_lt
      readAddress := fits.toNat_readAddress geometry
      readLength := fun _ => fits.toNat_readLength }

/-! ## Sectors -/

theorem Fits.sectorOf_spec (geometry : part.checkGeometry = .ok ()) (fits : plan.Fits part)
    {i : Nat} (h : i < plan.count) :
    plan.sectorOf part i < part.flashSectors ∧
      part.inSectors (plan.sectorOf part i).toNat (plan.sectorOf part i).toNat
        (part.flashBase + plan.offsetOf i).toNat = true := by
  have block := fits.block_le h
  have room := fits.inFlash
  have all := Part.sectors_mul_sectorSize geometry
  have pos := fits.sectorSize_pos
  have size := fits.blockSize_pos
  constructor
  · rw [UInt32.lt_iff_toNat_lt, fits.toNat_sectorOf geometry h, Nat.div_lt_iff_lt_mul pos, all]
    rw [Nat.succ_mul] at block
    omega
  · have first := Nat.div_mul_le_self (i * plan.blockSize.toNat) part.sectorSize.toNat
    have last := Nat.lt_div_mul_add pos (a := i * plan.blockSize.toNat)
    rw [Part.inSectors, fits.toNat_address geometry h, fits.toNat_sectorOf geometry h,
      Bool.and_eq_true, decide_eq_true_eq, decide_eq_true_eq, Nat.succ_mul]
    omega

/-- Blocks end with sectors, or there is only one sector that they reach. -/
def Tiles (part : Part) (plan : Plan) : Prop :=
  plan.blockSize.toNat ∣ part.sectorSize.toNat ∨ plan.data.length ≤ part.sectorSize.toNat

/-- The end of the sector that a block starts in. -/
def sectorStop (part : Part) (plan : Plan) (index : Nat) : Nat :=
  part.flashBase.toNat + ((plan.sectorOf part index).toNat + 1) * part.sectorSize.toNat

/-- **Blocks that tile the sectors** end in the sector they start in. -/
theorem Fits.block_le_sectorStop (geometry : part.checkGeometry = .ok ()) (fits : plan.Fits part)
    (tiles : plan.Tiles part) {i : Nat} (h : i < plan.count) :
    (part.flashBase + plan.offsetOf i).toNat + plan.blockSize.toNat ≤ plan.sectorStop part i := by
  have block := fits.block_le h
  rw [Nat.succ_mul] at block
  rw [sectorStop, fits.toNat_address geometry h, fits.toNat_sectorOf geometry h, Nat.add_assoc,
    ← Nat.succ_mul]
  refine Nat.add_le_add_left ?_ _
  rcases tiles with divides | single
  · -- the sector ends a whole number of blocks from the first one, and behind this one's start
    have behind := Nat.lt_div_mul_add fits.sectorSize_pos (a := i * plan.blockSize.toNat)
    rw [← Nat.succ_mul] at behind
    obtain ⟨n, whole⟩ : plan.blockSize.toNat ∣
        (i * plan.blockSize.toNat / part.sectorSize.toNat + 1) * part.sectorSize.toNat :=
      Nat.dvd_mul_left_of_dvd divides _
    rw [Nat.succ_eq_add_one, whole, Nat.mul_comm plan.blockSize.toNat] at behind
    rw [whole, Nat.mul_comm plan.blockSize.toNat]
    exact Nat.mul_le_mul_right _ (Nat.lt_of_mul_lt_mul_right behind)
  · exact Nat.le_trans (fits.block_le h)
      (Nat.le_trans single (Nat.le_mul_of_pos_left _ (Nat.succ_pos _)))

/-- **Where they do not tile**, the block that starts last in the first sector ends behind it. -/
theorem Fits.exists_sectorStop_lt (geometry : part.checkGeometry = .ok ())
    (fits : plan.Fits part) (crooked : ¬ plan.Tiles part) :
    ∃ i < plan.count, plan.sectorStop part i <
      (part.flashBase + plan.offsetOf i).toNat + plan.blockSize.toNat := by
  obtain ⟨indivisible, several⟩ := not_or.mp crooked
  have start := Nat.div_mul_le_self part.sectorSize.toNat plan.blockSize.toNat
  have stop := Nat.lt_div_mul_add fits.blockSize_pos (a := part.sectorSize.toNat)
  have inside : part.sectorSize.toNat / plan.blockSize.toNat * plan.blockSize.toNat <
      part.sectorSize.toNat :=
    Nat.lt_of_le_of_ne start fun same => indivisible ⟨_, by rw [Nat.mul_comm, same]⟩
  have h : part.sectorSize.toNat / plan.blockSize.toNat < plan.count := by
    refine Nat.lt_of_mul_lt_mul_right (a := plan.blockSize.toNat) ?_
    rw [fits.count_mul]
    omega
  refine ⟨_, h, ?_⟩
  rw [sectorStop, fits.toNat_address geometry h, fits.toNat_sectorOf geometry h,
    Nat.div_eq_of_lt inside]
  omega

/-! ## Commands -/

/-- A copy of a block to where it belongs passes the checks of a bootloader that wants pages of
    256 bytes. -/
theorem Fits.checkCopyArguments_eq_ok (geometry : part.checkGeometry = .ok ())
    (fits : plan.Fits part) (pages : 256 ∣ part.flashBase.toNat) (large : plan.blockSize ≠ 64)
    {i : Nat} (h : i < plan.count) :
    checkCopyArguments (part.flashBase + plan.offsetOf i) part.ramBufferAddress plan.blockSize =
      .ok () := by
  obtain ⟨size, divides⟩ : copySizes.contains plan.blockSize = true ∧
      256 ∣ plan.blockSize.toNat := by
    have all : (writeSizes.all fun size =>
      size = 64 ∨ copySizes.contains size ∧ 256 ∣ size.toNat) = true := by decide
    have listed := List.all_eq_true.mp all plan.blockSize fits.size
    rw [decide_eq_true_eq] at listed
    exact listed.resolve_left large
  have target : 256 ∣ (part.flashBase + plan.offsetOf i).toNat := by
    rw [fits.toNat_address geometry h]
    exact Nat.dvd_add pages (Nat.dvd_mul_left_of_dvd divides i)
  rw [checkCopyArguments, Dialogue.checkAlignment_of_dvd _ 256 target,
    Dialogue.checkAlignment_buffer fits]
  exact if_pos size

/-- There is another block to be copied behind some commands, and it starts in this sector. -/
def NextIn (part : Part) (plan : Plan) (given : List Command) (sector : UInt32) : Prop :=
  copied given < plan.count ∧ part.inSectors sector.toNat sector.toNat
    (part.flashBase.toNat + copied given * plan.blockSize.toNat) = true

/-- What a command of a programming run keeps to, behind those that were given. A sector is
    prepared because it was just found used, or because the next block starts in it. -/
def Within (part : Part) (plan : Plan) (given : List Command) : Command → Prop
  | .unlock => True
  | .blankCheck first last => first = last ∧ last < part.flashSectors
  | .prepareForWrite first last => first = last ∧ last < part.flashSectors ∧
    (given.getLast? = some (.blankCheck first last) ∨ plan.NextIn part given last)
  | .erase first last => first = last ∧ last < part.flashSectors ∧
    prepared given = some (first, last)
  | .writeToRam _ size => size = plan.blockSize ∧
    ∃ sector, prepared given = some (sector, sector) ∧ plan.NextIn part given sector
  | .copyRamToFlash target source size => part.Holds target size ∧ size = plan.blockSize ∧
    target.toNat = part.flashBase.toNat + copied given * size.toNat ∧
    (∃ sector, prepared given = some (sector, sector) ∧ plan.NextIn part given sector) ∧
    (256 ∣ part.flashBase.toNat → size ≠ 64 → checkCopyArguments target source size = .ok ())
  | .readMemory address size => part.Holds address size
  | _ => False

theorem Fits.nextIn (geometry : part.checkGeometry = .ok ()) (fits : plan.Fits part)
    {given : List Command} {i : Nat} (number : copied given = i) (h : i < plan.count) :
    plan.NextIn part given (plan.sectorOf part i) := by
  rw [NextIn, number, ← fits.toNat_address geometry h]
  exact ⟨h, (fits.sectorOf_spec geometry h).2⟩

theorem Allows.within (geometry : part.checkGeometry = .ok ()) (fits : plan.Fits part)
    {given : List Command} {c : Command} (h : plan.Allows part given c) :
    plan.Within part given c := by
  cases h with
  | unlock => trivial
  | look sector => exact ⟨rfl, sector⟩
  | prepareToErase sector looked => exact ⟨rfl, sector, .inl looked⟩
  | erase sector ready => exact ⟨rfl, sector, ready⟩
  | prepareToWrite number h =>
    exact ⟨rfl, (fits.sectorOf_spec geometry h).1, .inr (fits.nextIn geometry number h)⟩
  | stage number h ready => exact ⟨rfl, _, ready, fits.nextIn geometry number h⟩
  | copy number h ready =>
    have address := fits.toNat_address geometry h
    have room := (fits.offset_lt geometry h).1
    refine ⟨⟨?_, ?_⟩, rfl, ?_, ⟨_, ready, fits.nextIn geometry number h⟩, fun pages large =>
      fits.checkCopyArguments_eq_ok geometry pages large h⟩
    · rw [address]
      exact Nat.le_add_right ..
    · rw [address]
      exact room
    · rw [address, number]
  | readBack long =>
    have room := fits.inFlash
    constructor
    · rw [fits.toNat_readAddress geometry long]
      exact Nat.le_add_right ..
    · rw [fits.toNat_readAddress geometry long, fits.toNat_readLength]
      omega

theorem buffer_le_of_make {image : Image} {mode : UserCode} (h : make part image mode = .ok plan) :
    part.ramBase.toNat + part.ramBufferOffset.toNat + part.ramBufferSize.toNat ≤
      part.ramBase.toNat + part.ramSize.toNat := by
  obtain ⟨_, passed⟩ := passed_of_make h
  have checked := passed.buffer
  unfold Part.checkRamBuffer at checked
  dsimp only at checked
  split at checked
  · cases checked
  · next inside => exact Nat.not_lt.mp (not_or.mp inside).2

end Plan

/-- The range of RAM that a command stages data in, or copies it from. -/
def Wire.Command.stagingArea : Command → Option (UInt32 × UInt32)
  | .writeToRam address size => some (address, size)
  | .copyRamToFlash _ address size => some (address, size)
  | _ => none

/-! ## Runs -/

namespace Programmer

variable {δ : Type} [Transport δ]

/-- **Nothing outside of the flash** is read or copied to in any run, and no number on the way is
    cut off. Every sector is one of the part, and a block is staged and copied while the sector
    of its first byte stands prepared. -/
theorem flash_within (image : Image) (mode : UserCode) (verify progress : Bool) (P : Programmer δ)
    (geometry : P.part.checkGeometry = .ok ()) (plan : Plan)
    (made : Plan.make P.part image mode = .ok plan) (cs : List Call)
    (ran : calls (flash image mode verify progress P).2 = calls P ++ cs) (m : Memory) :
    plan.Exact P.part ∧ ∀ pre c post,
      Device.heard P.part (⟨m, none⟩, held P ++ received cs) (sent cs) = pre ++ c :: post →
        plan.Within P.part pre c := by
  have fits := Plan.fits_of_make made
  refine ⟨fits.exact geometry, fun pre c post split => ?_⟩
  exact ((flash_inOrder made ran m).proper_of_split split).within geometry fits

theorem flash_within_rehearsed :
    let data := (Image.withSum ⟨[1, 2, 3]⟩).blocks 64
    let m := Memory.ofContent (fun _ => 0) fun _ => 0
    let cs := calls (flash ⟨[1, 2, 3]⟩ .compute true false rehearsal).2
    rehearsal.part.checkGeometry = .ok () ∧
      Plan.make rehearsal.part ⟨[1, 2, 3]⟩ .compute = .ok ⟨data, 64⟩ ∧
      Plan.Exact rehearsal.part ⟨data, 64⟩ ∧ ∀ pre c post,
        Device.heard rehearsal.part (⟨m, none⟩, held rehearsal ++ received cs) (sent cs) =
          pre ++ c :: post → Plan.Within rehearsal.part ⟨data, 64⟩ pre c := by
  intro data m cs
  have made : Plan.make rehearsal.part ⟨[1, 2, 3]⟩ .compute = .ok ⟨data, 64⟩ := by decide +kernel
  exact ⟨rfl, made, flash_within ⟨[1, 2, 3]⟩ .compute true false rehearsal rfl _ made _ rfl m⟩

/-- **Where a block is copied to** is a sector that was prepared for it. The block starts in it,
    and ends in it where blocks tile the sectors. Where they do not, every run that succeeds
    has copied over the end of a sector, into one that was not prepared. -/
theorem flash_copies_in_sectors (image : Image) (mode : UserCode) (verify progress : Bool)
    (P : Programmer δ) (geometry : P.part.checkGeometry = .ok ()) (plan : Plan)
    (made : Plan.make P.part image mode = .ok plan) (cs : List Call)
    (ran : calls (flash image mode verify progress P).2 = calls P ++ cs) (m : Memory) :
    let given := Device.heard P.part (⟨m, none⟩, held P ++ received cs) (sent cs)
    let base := P.part.flashBase.toNat
    let width := P.part.sectorSize.toNat
    (∀ pre target source size post, given = pre ++ .copyRamToFlash target source size :: post →
      ∃ sector, prepared pre = some (sector, sector) ∧
        base + sector.toNat * width ≤ target.toNat ∧
        target.toNat < base + (sector.toNat + 1) * width ∧
        (plan.Tiles P.part → target.toNat + size.toNat ≤ base + (sector.toNat + 1) * width)) ∧
      ((flash image mode verify progress P).1 = .ok () → ¬ plan.Tiles P.part →
        ∃ pre target source size post sector,
          given = pre ++ .copyRamToFlash target source size :: post ∧
          prepared pre = some (sector, sector) ∧
          base + (sector.toNat + 1) * width < target.toNat + size.toNat) := by
  intro given base width
  have fits := Plan.fits_of_make made
  constructor
  · intro pre target source size post split
    have allowed : plan.Allows P.part pre _ := (flash_inOrder made ran m).proper_of_split split
    cases allowed with
    | copy number h ready =>
      have inside := (fits.sectorOf_spec geometry h).2
      rw [Part.inSectors, Bool.and_eq_true, decide_eq_true_eq, decide_eq_true_eq] at inside
      exact ⟨_, ready, inside.1, inside.2, fun tiles => fits.block_le_sectorStop geometry tiles h⟩
  · intro ok crooked
    obtain ⟨i, h, crosses⟩ := fits.exists_sectorStop_lt geometry crooked
    obtain ⟨pre, post, split, ready⟩ := flash_copies_each made ran ok m h
    exact ⟨pre, _, _, _, post, _, split, ready, crosses⟩

/-- A programmer of a part with sectors of 100 bytes, which blocks of 64 bytes do not tile. -/
def uneven : Programmer Scripted where
  session := Session.start
    { replies := ["0\r\n", "0\r\n", "0\r\n", "0\r\n", "0\r\n", "OK\r\n", "0\r\n", "0\r\n",
        "0\r\n", "OK\r\n", "0\r\n"].map Bytes.ascii } {}
  part := { rehearsal.part with flashSize := 200 }

/-- In a run that succeeds, every copy starts in its sector, and one does not end in it. -/
theorem flash_copies_in_sectors_rehearsed :
    let image : Image := ⟨List.replicate 100 0⟩
    let data := image.withSum.blocks 64
    let m := Memory.ofContent (fun _ => 0xFF) fun _ => 0
    let cs := calls (flash image .compute false false uneven).2
    let given := Device.heard uneven.part (⟨m, none⟩, held uneven ++ received cs) (sent cs)
    let base := uneven.part.flashBase.toNat
    let width := uneven.part.sectorSize.toNat
    uneven.part.checkGeometry = .ok () ∧
      Plan.make uneven.part image .compute = .ok ⟨data, 64⟩ ∧
      (flash image .compute false false uneven).1 = .ok () ∧
      (∀ pre target source size post, given = pre ++ .copyRamToFlash target source size :: post →
        ∃ sector, prepared pre = some (sector, sector) ∧
          base + sector.toNat * width ≤ target.toNat ∧
          target.toNat < base + (sector.toNat + 1) * width) ∧
      ∃ pre target source size post sector,
        given = pre ++ .copyRamToFlash target source size :: post ∧
        prepared pre = some (sector, sector) ∧
        base + (sector.toNat + 1) * width < target.toNat + size.toNat := by
  intro image data m cs given base width
  have made : Plan.make uneven.part image .compute = .ok ⟨data, 64⟩ := by decide +kernel
  have ok : (flash image .compute false false uneven).1 = .ok () := by decide +kernel
  have crooked : ¬ Plan.Tiles uneven.part ⟨data, 64⟩ := by
    unfold Plan.Tiles
    decide +kernel
  have both := flash_copies_in_sectors image .compute false false uneven rfl _ made cs
    (List.nil_append _).symm m
  refine ⟨rfl, made, ok, fun pre target source size post split => ?_, both.2 ok crooked⟩
  obtain ⟨sector, ready, first, last, -⟩ := both.1 pre target source size post split
  exact ⟨sector, ready, first, last⟩

/-- The copy that does not is the second one: the second block crosses from the first sector
    into the other one. -/
theorem flash_crosses_sectors :
    let run := flash ⟨List.replicate 100 0⟩ .compute false false uneven
    let m := Memory.ofContent (fun _ => 0xFF) fun _ => 0
    let given := Device.heard uneven.part (⟨m, none⟩, received (calls run.2)) (sent (calls run.2))
    let ram := uneven.part.ramBufferAddress
    uneven.part.checkGeometry = .ok () ∧ run.1 = .ok () ∧
      given = [.unlock, .blankCheck 0 0, .blankCheck 1 1, .prepareForWrite 0 0,
        .writeToRam ram 64, .copyRamToFlash 0 ram 64, .prepareForWrite 0 0,
        .writeToRam ram 64] ++ .copyRamToFlash 64 ram 64 :: [] ∧
      prepared (given.take 8) = some (0, 0) ∧
      ¬ 64 + 64 ≤ (0 + 1) * uneven.part.sectorSize.toNat := by
  decide +kernel

/-- **Where blocks are staged** is always the same area, as large as a block. It lies in the RAM
    unless the address of the buffer wraps around, and outside of it if it does. -/
theorem flash_stages_in_ram (image : Image) (mode : UserCode) (verify progress : Bool)
    (P : Programmer δ) (plan : Plan) (made : Plan.make P.part image mode = .ok plan)
    (cs : List Call) (ran : calls (flash image mode verify progress P).2 = calls P ++ cs)
    (m : Memory) (c : Command)
    (given : c ∈ Device.heard P.part (⟨m, none⟩, held P ++ received cs) (sent cs))
    (address size : UInt32) (area : c.stagingArea = some (address, size)) :
    address = P.part.ramBufferAddress ∧ size = plan.blockSize ∧
      (P.part.ramBase.toNat ≤ address.toNat ∧
          address.toNat + size.toNat ≤ P.part.ramBase.toNat + P.part.ramSize.toNat ↔
        P.part.ramBase.toNat + P.part.ramBufferOffset.toNat < UInt32.size) := by
  obtain ⟨pre, post, split⟩ := List.append_of_mem given
  have allowed := (flash_inOrder made ran m).proper_of_split split
  obtain ⟨rfl, rfl⟩ : address = P.part.ramBufferAddress ∧ size = plan.blockSize := by
    cases allowed with
    | stage number h ready =>
      cases area
      exact ⟨rfl, rfl⟩
    | copy number h ready =>
      cases area
      exact ⟨rfl, rfl⟩
    | _ => cases area
  refine ⟨rfl, rfl, ?_⟩
  have inBuffer := (Plan.fits_of_make made).inBuffer
  have inRam := Plan.buffer_le_of_make made
  have base := P.part.ramBase.toNat_lt
  have offset := P.part.ramBufferOffset.toNat_lt
  -- the sum that was checked and the address differ by 2^32, or not at all
  rw [Part.ramBufferAddress, UInt32.toNat_add, UInt32.size]
  omega

theorem flash_stages_in_ram_rehearsed :
    let data := (Image.withSum ⟨[1, 2, 3]⟩).blocks 64
    let m := Memory.ofContent (fun _ => 0) fun _ => 0
    let cs := calls (flash ⟨[1, 2, 3]⟩ .compute true false rehearsal).2
    let address : UInt32 := 0x10000040
    Plan.make rehearsal.part ⟨[1, 2, 3]⟩ .compute = .ok ⟨data, 64⟩ ∧
      .writeToRam address 64 ∈
        Device.heard rehearsal.part (⟨m, none⟩, held rehearsal ++ received cs) (sent cs) ∧
      0x10000000 ≤ address.toNat ∧ address.toNat + 64 ≤ 0x10000000 + 256 := by
  intro data m cs address
  have made : Plan.make rehearsal.part ⟨[1, 2, 3]⟩ .compute = .ok ⟨data, 64⟩ := by decide +kernel
  have given : .writeToRam address 64 ∈
      Device.heard rehearsal.part (⟨m, none⟩, held rehearsal ++ received cs) (sent cs) := by
    decide +kernel
  have staged := flash_stages_in_ram ⟨[1, 2, 3]⟩ .compute true false rehearsal _ made cs rfl m _
    given address 64 rfl
  exact ⟨made, given, staged.2.2.mpr (by decide)⟩

/-- A programmer of a part whose RAM reaches over the end of the address space, with its buffer
    behind the end. -/
def wrapped : Programmer Scripted :=
  { rehearsal with
    part := { rehearsal.part with
      flashSize := 512, ramBase := 0xFFFFFF00, ramSize := 0x1000, ramBufferOffset := 0x200,
      ramBufferSize := 0x100 } }

/-- Its buffer passes for one in the RAM, and blocks are staged at address 0x100. -/
theorem flash_stages_outside_ram :
    let run := flash ⟨[1, 2, 3]⟩ .compute false false wrapped
    let m := Memory.ofContent (fun _ => 0) fun _ => 0
    let given := Device.heard wrapped.part (⟨m, none⟩, received (calls run.2)) (sent (calls run.2))
    wrapped.part.checkGeometry = .ok () ∧ wrapped.part.checkRamBuffer = .ok () ∧
      (Plan.make wrapped.part ⟨[1, 2, 3]⟩ .compute).isOk = true ∧ run.1 = .ok () ∧
      .writeToRam 0x100 256 ∈ given ∧ .copyRamToFlash 0 0x100 256 ∈ given ∧
      ¬ wrapped.part.ramBase ≤ 0x100 := by
  decide +kernel

end Programmer

/-! ## Built-in parts -/

/-- No built-in part is an exception: blocks tile its sectors, its flash starts a page, and the
    address of its buffer does not wrap around. -/
theorem Part.catalog_regular : ∀ part ∈ catalog, part.checkGeometry = .ok () ∧
    (writeSize part.sectorSize part.ramBufferSize).toNat ∣ part.sectorSize.toNat ∧
    256 ∣ part.flashBase.toNat ∧ part.ramBase.toNat + part.ramBufferOffset.toNat < UInt32.size := by
  decide

theorem Plan.tiles_of_mem_catalog {part : Part} (known : part ∈ Part.catalog) {image : Image}
    {mode : UserCode} {plan : Plan} (made : make part image mode = .ok plan) :
    plan.Tiles part := by
  obtain ⟨_, passed⟩ := passed_of_make made
  have regular := (Part.catalog_regular part known).2.1
  rw [writeSize_of_blockSizeFor passed.sized] at regular
  exact .inl regular

end SerialIsp
