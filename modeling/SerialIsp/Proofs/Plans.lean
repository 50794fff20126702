import SerialIsp.Programmer.Plan
import SerialIsp.Proofs.Bytes

/-!
# What a plan promises

A plan is made before a device is touched, and is to leave nothing that could still go wrong
on this side. `Plan.Fits` says what that is: the block size is one of those a device takes,
it fits a sector and the RAM buffer, the data is a whole number of blocks that fit in the
flash, and the buffer starts at a word. Together with a geometry that passed its check, no
address in the flash that is computed while programming wraps around.
-/

namespace SerialIsp

/-- What a rehearsal comes to can be computed. -/
instance decidableEqExcept {ε α : Type} [DecidableEq ε] [DecidableEq α] :
    DecidableEq (Except ε α)
  | .ok a, .ok b => decidable_of_iff (a = b) ⟨congrArg _, Except.ok.inj⟩
  | .error e, .error f => decidable_of_iff (e = f) ⟨congrArg _, Except.error.inj⟩
  | .ok _, .error _ => isFalse nofun
  | .error _, .ok _ => isFalse nofun

/-- A sequence of results succeeds when all of it does. -/
theorem exists_of_bind_eq_ok {ε α β : Type} {x : Except ε α} {f : α → Except ε β} {b : β}
    (h : x >>= f = .ok b) : ∃ a, x = .ok a ∧ f a = .ok b := by
  cases x with
  | error e => cases h
  | ok a => exact ⟨a, rfl, h⟩

theorem mod_of_checkAlignment {operand : Operand} {value alignment : UInt32}
    (h : checkAlignment operand value alignment = .ok ()) : value % alignment = 0 := by
  unfold checkAlignment at h
  split at h
  · cases h
  · next aligned => exact Decidable.not_not.mp aligned

/-! ## Geometry -/

namespace Part

variable {part : Part}

theorem max_one {n : UInt32} (pos : 0 < n.toNat) : max n 1 = n := by
  show (if n ≤ 1 then 1 else n) = n
  split
  · next one =>
    have : n.toNat ≤ 1 := one
    exact UInt32.toNat_inj.mp (show 1 = n.toNat by omega)
  · rfl

/-- A flash that passed the check ends inside the address space. -/
theorem flash_lt (h : part.checkGeometry = .ok ()) :
    part.flashBase.toNat + part.flashSize.toNat < UInt32.size := by
  unfold checkGeometry at h
  split at h
  · cases h
  · next fits => exact Nat.not_le.mp fits

theorem flashSectors_pos (h : part.checkGeometry = .ok ()) : 0 < part.flashSectors.toNat := by
  unfold checkGeometry at h
  split at h
  · cases h
  · split at h
    · cases h
    · next fits =>
      rw [not_or] at fits
      exact Nat.pos_of_ne_zero fun none => fits.1 (UInt32.toNat_inj.mp none)

theorem toNat_sectorSize (h : part.checkGeometry = .ok ()) :
    part.sectorSize.toNat = part.flashSize.toNat / part.flashSectors.toNat := by
  rw [sectorSize, max_one (flashSectors_pos h), UInt32.toNat_div]

/-- The sectors are the whole flash. -/
theorem sectors_mul_sectorSize (h : part.checkGeometry = .ok ()) :
    part.flashSectors.toNat * part.sectorSize.toNat = part.flashSize.toNat := by
  rw [toNat_sectorSize h]
  unfold checkGeometry at h
  split at h
  · cases h
  · split at h
    · cases h
    · next fits =>
      rw [not_or, Decidable.not_not] at fits
      have even := congrArg UInt32.toNat fits.2
      rw [UInt32.toNat_mod] at even
      exact Nat.mul_div_cancel' (Nat.dvd_of_mod_eq_zero even)

end Part

/-! ## Plans -/

namespace Plan

/-- What a plan promises to a part. -/
structure Fits (part : Part) (plan : Plan) : Prop where
  size : plan.blockSize ∈ writeSizes
  inSector : plan.blockSize.toNat ≤ part.sectorSize.toNat
  inBuffer : plan.blockSize.toNat ≤ part.ramBufferSize.toNat
  whole : plan.blockSize.toNat ∣ plan.data.length
  inFlash : plan.data.length ≤ part.flashSize.toNat
  aligned : part.ramBufferAddress % 4 = 0

theorem size_le_of_checkSize {part : Part} {size : Nat} (h : checkSize part size = .ok ()) :
    size ≤ part.flashSize.toNat := by
  unfold checkSize at h
  split at h
  · cases h
  · next fits => exact Nat.not_lt.mp fits

theorem le_of_le_min {a b c : UInt32} (h : a ≤ min b c) :
    a.toNat ≤ b.toNat ∧ a.toNat ≤ c.toNat := by
  have cases : a ≤ if b ≤ c then b else c := h
  split at cases
  · next le =>
    have ab : a.toNat ≤ b.toNat := cases
    have bc : b.toNat ≤ c.toNat := le
    exact ⟨ab, Nat.le_trans ab bc⟩
  · next gt =>
    have ac : a.toNat ≤ c.toNat := cases
    have cb : ¬ b.toNat ≤ c.toNat := gt
    exact ⟨by omega, ac⟩

theorem find?_of_blockSizeFor {part : Part} {size : UInt32} (h : blockSizeFor part = .ok size) :
    writeSizes.find? (fun size => size ≤ min part.sectorSize part.ramBufferSize) = some size := by
  unfold blockSizeFor writeSize at h
  cases found : writeSizes.find? fun size => size ≤ min part.sectorSize part.ramBufferSize with
  | none =>
    rw [found] at h
    cases h
  | some size' =>
    have positive : size' ≠ 0 := by
      rintro rfl
      exact absurd (List.mem_of_find?_eq_some found) (by decide)
    rw [found, Option.getD_some, if_neg positive] at h
    cases h
    rfl

theorem writeSize_of_blockSizeFor {part : Part} {size : UInt32} (h : blockSizeFor part = .ok size) :
    writeSize part.sectorSize part.ramBufferSize = size := by
  rw [writeSize, find?_of_blockSizeFor h]
  rfl

theorem blockSizeFor_eq_ok {part : Part} {size : UInt32} (h : blockSizeFor part = .ok size) :
    size ∈ writeSizes ∧ size ≤ min part.sectorSize part.ramBufferSize := by
  have found := find?_of_blockSizeFor h
  exact ⟨List.mem_of_find?_eq_some found, by simpa using List.find?_some found⟩

theorem dvd_roundUp (unit n : Nat) : unit ∣ Bytes.roundUp unit n := Nat.dvd_mul_left ..

theorem le_roundUp {unit : Nat} (pos : 0 < unit) (n : Nat) : n ≤ Bytes.roundUp unit n := by
  unfold Bytes.roundUp
  have := Nat.div_add_mod (n + unit - 1) unit
  have := Nat.mod_lt (n + unit - 1) pos
  rw [Nat.mul_comm]
  omega

theorem length_blocks (image : Image) {blockSize : Nat} (pos : 0 < blockSize) :
    (image.blocks blockSize).length = Bytes.roundUp blockSize image.data.length := by
  have := le_roundUp pos image.data.length
  rw [Image.blocks, Bytes.padTo, List.length_append, List.length_replicate]
  omega

theorem pos_of_mem_writeSizes {size : UInt32} (h : size ∈ writeSizes) : 0 < size.toNat := by
  have all : (writeSizes.all fun size => 0 < size.toNat) = true := by decide
  exact of_decide_eq_true (List.all_eq_true.mp all size h)

theorem four_dvd_of_mem_writeSizes {size : UInt32} (h : size ∈ writeSizes) : 4 ∣ size.toNat := by
  have all : (writeSizes.all fun size => 4 ∣ size.toNat) = true := by decide
  exact of_decide_eq_true (List.all_eq_true.mp all size h)

/-- What a plan went through when it was made, in the order of `make`. -/
structure Passed (part : Part) (image : Image) (mode : UserCode) (prepared : Image)
    (plan : Plan) : Prop where
  prepare : image.prepare mode = .ok prepared
  image : checkSize part prepared.length = .ok ()
  buffer : part.checkRamBuffer = .ok ()
  alignment : checkAlignment .ramBufferAddress part.ramBufferAddress 4 = .ok ()
  sized : blockSizeFor part = .ok plan.blockSize
  room : checkSize part plan.data.length = .ok ()
  data : plan.data = prepared.blocks plan.blockSize.toNat

theorem passed_of_make {part : Part} {image : Image} {mode : UserCode} {plan : Plan}
    (h : make part image mode = .ok plan) : ∃ prepared, Passed part image mode prepared plan := by
  obtain ⟨prepared, prepare, h⟩ := exists_of_bind_eq_ok h
  obtain ⟨⟨⟩, image, h⟩ := exists_of_bind_eq_ok h
  obtain ⟨⟨⟩, buffer, h⟩ := exists_of_bind_eq_ok h
  obtain ⟨⟨⟩, alignment, h⟩ := exists_of_bind_eq_ok h
  obtain ⟨blockSize, sized, h⟩ := exists_of_bind_eq_ok h
  obtain ⟨⟨⟩, room, h⟩ := exists_of_bind_eq_ok h
  cases h
  exact ⟨prepared, prepare, image, buffer, alignment, sized, room, rfl⟩

/-- **Plans keep what they promise.** -/
theorem fits_of_make {part : Part} {image : Image} {mode : UserCode} {plan : Plan}
    (h : make part image mode = .ok plan) : plan.Fits part := by
  obtain ⟨prepared, passed⟩ := passed_of_make h
  obtain ⟨size, fits⟩ := blockSizeFor_eq_ok passed.sized
  exact
    { size
      inSector := (le_of_le_min fits).1
      inBuffer := (le_of_le_min fits).2
      whole := by
        rw [passed.data, length_blocks _ (pos_of_mem_writeSizes size)]
        exact dvd_roundUp ..
      inFlash := size_le_of_checkSize passed.room
      aligned := mod_of_checkAlignment passed.alignment }

/-! ## Where the blocks go -/

/-- The number of blocks of a plan. -/
def count (plan : Plan) : Nat := plan.data.length / plan.blockSize.toNat

/-- The offset of a block in the flash, modulo 2^32. -/
def offsetOf (plan : Plan) (index : Nat) : UInt32 := index.toUInt32 * plan.blockSize

/-- The sector that holds the first byte of a block. -/
def sectorOf (part : Part) (plan : Plan) (index : Nat) : UInt32 :=
  part.sectorOf (plan.offsetOf index)

section

variable {part : Part} {plan : Plan}

theorem Fits.blockSize_pos (fits : plan.Fits part) : 0 < plan.blockSize.toNat :=
  pos_of_mem_writeSizes fits.size

theorem Fits.sectorSize_pos (fits : plan.Fits part) : 0 < part.sectorSize.toNat :=
  Nat.lt_of_lt_of_le fits.blockSize_pos fits.inSector

theorem Fits.count_mul (fits : plan.Fits part) :
    plan.count * plan.blockSize.toNat = plan.data.length := Nat.div_mul_cancel fits.whole

theorem Fits.block_le (fits : plan.Fits part) {i : Nat} (h : i < plan.count) :
    (i + 1) * plan.blockSize.toNat ≤ plan.data.length := by
  rw [← fits.count_mul]
  exact Nat.mul_le_mul_right _ h

theorem Fits.length_piece (fits : plan.Fits part) {i : Nat} (h : i < plan.count) :
    (Bytes.piece plan.blockSize.toNat plan.data i).length = plan.blockSize.toNat :=
  Bytes.length_piece (fits.block_le h)

theorem Fits.blocks_eq (fits : plan.Fits part) :
    plan.blocks = (List.range plan.count).map (Bytes.piece plan.blockSize.toNat plan.data) := by
  have count : (Bytes.chunks plan.blockSize.toNat plan.data).length = plan.count := by
    have := fits.blockSize_pos
    rw [Bytes.length_chunks fits.blockSize_pos, Plan.count, ← fits.count_mul,
      Nat.mul_div_cancel _ fits.blockSize_pos, Nat.add_comm, Nat.add_mul_div_right _ _ this,
      Nat.div_eq_of_lt (by omega), Nat.zero_add]
  rw [blocks, Bytes.chunks_eq_map_piece fits.blockSize_pos, count]

/-- A block starts inside the flash, and so before the last address. -/
theorem Fits.offset_lt (geometry : part.checkGeometry = .ok ()) (fits : plan.Fits part) {i : Nat}
    (h : i < plan.count) :
    part.flashBase.toNat + i * plan.blockSize.toNat + plan.blockSize.toNat ≤
        part.flashBase.toNat + part.flashSize.toNat ∧
      part.flashBase.toNat + i * plan.blockSize.toNat < UInt32.size := by
  have block := fits.block_le h
  have := fits.inFlash
  have := fits.blockSize_pos
  have := Part.flash_lt geometry
  rw [Nat.succ_mul] at block
  omega

theorem Fits.toNat_offset (geometry : part.checkGeometry = .ok ()) (fits : plan.Fits part)
    {i : Nat} (h : i < plan.count) :
    (i.toUInt32 * plan.blockSize).toNat = i * plan.blockSize.toNat := by
  have := fits.offset_lt geometry h
  have le : i ≤ i * plan.blockSize.toNat := Nat.le_mul_of_pos_right i fits.blockSize_pos
  rw [UInt32.toNat_mul, UInt32.toNat_ofNat_of_lt' (by omega), Nat.mod_eq_of_lt]
  exact Nat.lt_of_le_of_lt (Nat.le_add_left ..) this.2

theorem Fits.sectorOf_offset (geometry : part.checkGeometry = .ok ()) (fits : plan.Fits part)
    {i : Nat} (h : i < plan.count) :
    part.sectorOf (i.toUInt32 * plan.blockSize) =
      (i * plan.blockSize.toNat / part.sectorSize.toNat).toUInt32 := by
  have lt : i * plan.blockSize.toNat / part.sectorSize.toNat < UInt32.size :=
    Nat.lt_of_le_of_lt (Nat.div_le_self ..)
      (Nat.lt_of_le_of_lt (Nat.le_add_left ..) (fits.offset_lt geometry h).2)
  rw [← UInt32.toNat_inj, Part.sectorOf, Part.max_one fits.sectorSize_pos, UInt32.toNat_div,
    fits.toNat_offset geometry h, UInt32.toNat_ofNat_of_lt' lt]

theorem Fits.flashBase_add_offset (geometry : part.checkGeometry = .ok ())
    (fits : plan.Fits part) {i : Nat} (h : i < plan.count) :
    part.flashBase + i.toUInt32 * plan.blockSize =
      (part.flashBase.toNat + i * plan.blockSize.toNat).toUInt32 := by
  have lt := (fits.offset_lt geometry h).2
  rw [← UInt32.toNat_inj, UInt32.toNat_add, fits.toNat_offset geometry h, Nat.mod_eq_of_lt lt,
    UInt32.toNat_ofNat_of_lt' lt]

end

end Plan
end SerialIsp
