import SerialIsp.Proofs.Plans

/-!
# What passes validation

The checks of an image run on its bytes, but what is programmed is longer: the eighth vector may
lie behind the end of a short image, the last block is filled up with zeros, and the flash behind
it stays erased. `Plan.Valid` says what is true of the flash itself in the end, and all of it
follows from a plan being made, for images of any length.

A word counts missing bytes as zeros, so that padding changes no word. The one word where that is
not what the flash will hold is the protection word of an image that ends before it. There the
blocks help: all block sizes are multiples of 64 bytes, and the word does not cross such a
boundary, so it is either padded or erased as a whole.
-/

namespace SerialIsp

/-! ## Sums -/

/-- What is subtracted in one sum is added in the other. -/
theorem foldl_add_add_foldl_sub (words : List UInt32) (a b : UInt32) :
    words.foldl (· + ·) a + words.foldl (· - ·) b = a + b := by
  induction words generalizing a b with
  | nil => rfl
  | cons w words ih =>
    rw [List.foldl_cons, List.foldl_cons, ih]
    refine UInt32.toBitVec_inj.mp ?_
    simp only [UInt32.toBitVec_add, UInt32.toBitVec_sub]
    bv_omega

namespace Image

/-- The sum of the vectors that have to balance. -/
def vectorSum (b : Bytes) : UInt32 :=
  ((List.range (summedVectors + 1)).map fun i => b.wordAt (i * 4)).foldl (· + ·) 0

theorem vectorSum_eq_zero {b : Bytes} (stored : b.wordAt sumOffset = expectedSum ⟨b⟩) :
    vectorSum b = 0 := by
  have seven := foldl_add_add_foldl_sub
    ((List.range summedVectors).map fun i => b.wordAt (i * 4)) 0 0
  rw [vectorSum, List.range_succ, List.map_append, List.foldl_append]
  show _ + b.wordAt sumOffset = 0
  rw [stored]
  exact seven

/-- What an image is once it is prepared. -/
structure Prepared (image : Image) (mode : UserCode) (prepared : Image) : Prop where
  covers : image.length ≤ prepared.length
  kept : ∀ i, (mode = .compute → i < sumOffset ∨ vectorTableLength ≤ i) →
    prepared.data.getD i 0 = image.data.getD i 0
  stored : prepared.storedSum = image.expectedSum
  unprotected : prepared.protection ∉ protectionWords

theorem length_padTo_table (image : Image) :
    (image.data.padTo vectorTableLength).length = max vectorTableLength image.length := by
  rw [Bytes.padTo, List.length_append, List.length_replicate, length]
  omega

section

variable (image : Image)

/-- The eighth vector lies inside the padded table. -/
theorem sum_le_length_padTo : sumOffset + (Bytes.ofWord image.expectedSum).length ≤
    (image.data.padTo vectorTableLength).length := by
  rw [length_padTo_table]
  exact Nat.le_max_left vectorTableLength _

theorem le_length_withSum : image.length ≤ image.withSum.length := by
  show image.length ≤ (Bytes.overwrite _ _ _).length
  rw [Bytes.length_overwrite image.sum_le_length_padTo, length_padTo_table]
  exact Nat.le_max_right ..

theorem getD_withSum {i : Nat} (outside : i < sumOffset ∨ vectorTableLength ≤ i) :
    image.withSum.data.getD i 0 = image.data.getD i 0 := by
  rw [withSum]
  rcases outside with before | behind
  · rw [Bytes.getD_overwrite_of_lt image.sum_le_length_padTo before, Bytes.getD_padTo]
  · rw [Bytes.getD_overwrite_of_ge image.sum_le_length_padTo behind, Bytes.getD_padTo]

theorem storedSum_withSum : image.withSum.storedSum = image.expectedSum := by
  rw [← Bytes.wordAt_ofWord image.expectedSum]
  refine Bytes.wordAt_congr fun k small => ?_
  rw [Nat.zero_add]
  exact Bytes.getD_overwrite_add image.sum_le_length_padTo small

end

theorem prepared_of_prepare {image prepared : Image} {mode : UserCode}
    (h : image.prepare mode = .ok prepared) : image.Prepared mode prepared := by
  obtain ⟨settled, sum, h⟩ := exists_of_bind_eq_ok h
  obtain ⟨⟨⟩, checked, h⟩ := exists_of_bind_eq_ok h
  cases h
  have unprotected : prepared.protection ∉ protectionWords := by
    unfold checkProtection at checked
    split at checked
    · cases checked
    · next absent =>
      rw [List.contains_iff_mem] at absent
      exact absent
  cases mode with
  | compute =>
    cases sum
    exact
      { covers := image.le_length_withSum
        kept := fun i outside => image.getD_withSum (outside rfl)
        stored := image.storedSum_withSum
        unprotected }
  | verify =>
    rw [settleSum] at sum
    split at sum
    · next stored =>
      cases sum
      exact
        { covers := Nat.le_refl _
          kept := fun _ _ => rfl
          stored
          unprotected }
    · cases sum

/-- **The vectors of a prepared image balance**, in either mode. -/
theorem Prepared.balanced {image prepared : Image} {mode : UserCode}
    (h : image.Prepared mode prepared) : vectorSum prepared.data = 0 := by
  refine vectorSum_eq_zero (h.stored.trans ?_)
  -- the first seven vectors are those of the image
  have same (i : Nat) (mem : i ∈ List.range summedVectors) :
      prepared.data.wordAt (i * 4) = image.data.wordAt (i * 4) := by
    have before : i < 7 := List.mem_range.mp mem
    refine Bytes.wordAt_congr fun k small => h.kept _ fun _ => .inl ?_
    show i * 4 + k < 28
    omega
  exact congrArg balancingWord (List.map_congr_left fun i mem => (same i mem).symm)

end Image

/-! ## Block sizes -/

namespace Plan

/-- What is found first in a descending list is the largest. -/
theorem le_of_find? {p : UInt32 → Bool} {sizes : List UInt32} {first other : UInt32}
    (descending : sizes.Pairwise (· ≥ ·)) (found : sizes.find? p = some first)
    (mem : other ∈ sizes) (fits : p other = true) : other ≤ first := by
  obtain ⟨-, before, behind, rfl, refused⟩ := List.find?_eq_some_iff_append.mp found
  rcases List.mem_append.mp mem with early | late
  · have := refused other early
    rw [fits] at this
    cases this
  · rcases List.mem_cons.mp late with rfl | later
    · exact UInt32.le_refl other
    · exact (List.pairwise_cons.mp (List.pairwise_append.mp descending).2.1).1 other later

theorem le_blockSizeFor {part : Part} {size other : UInt32} (sized : blockSizeFor part = .ok size)
    (mem : other ∈ writeSizes) (inSector : other ≤ part.sectorSize)
    (inBuffer : other ≤ part.ramBufferSize) : other ≤ size := by
  have fits : other ≤ min part.sectorSize part.ramBufferSize := by
    show other ≤ if part.sectorSize ≤ part.ramBufferSize then _ else _
    split
    · exact inSector
    · exact inBuffer
  exact le_of_find? (by decide) (find?_of_blockSizeFor sized) mem (decide_eq_true fits)

theorem dvd_of_mem_writeSizes {size : UInt32} (h : size ∈ writeSizes) : 64 ∣ size.toNat := by
  have all : (writeSizes.all fun size => 64 ∣ size.toNat) = true := by decide
  exact of_decide_eq_true (List.all_eq_true.mp all size h)

/-! ## Flash -/

/-- What the flash of a part holds when a plan was carried out. -/
def flashed (part : Part) (plan : Plan) : Bytes :=
  plan.data ++ List.replicate (part.flashSize.toNat - plan.data.length) 0xFF

section

variable {part : Part} {plan : Plan} {offset : Nat}

theorem wordAt_flashed_of_le (h : offset + 4 ≤ plan.data.length) :
    (plan.flashed part).wordAt offset = plan.data.wordAt offset := by
  refine Bytes.wordAt_congr fun k small => ?_
  have inside : offset + k < plan.data.length := Nat.lt_of_lt_of_le (by omega) h
  rw [flashed, List.getD_eq_getElem?_getD, List.getD_eq_getElem?_getD,
    List.getElem?_append_left inside]

theorem wordAt_flashed_of_ge (h : plan.data.length ≤ offset)
    (inside : offset + 4 ≤ part.flashSize.toNat) :
    (plan.flashed part).wordAt offset = 0xFFFFFFFF := by
  have erased : Bytes.wordAt (List.replicate 4 0xFF) 0 = 0xFFFFFFFF := by decide
  rw [← erased]
  refine Bytes.wordAt_congr fun k small => ?_
  have behind : plan.data.length ≤ offset + k := Nat.le_trans h (Nat.le_add_right ..)
  have filled : offset + k - plan.data.length < part.flashSize.toNat - plan.data.length := by omega
  rw [flashed, List.getD_eq_getElem?_getD, List.getElem?_append_right behind,
    List.getElem?_replicate, if_pos filled, List.getD_eq_getElem?_getD, List.getElem?_replicate,
    Nat.zero_add, if_pos small]

end

/-- What a plan and the flash that it leaves have to be. -/
structure Valid (part : Part) (image : Image) (mode : UserCode) (plan : Plan) : Prop where
  listed : plan.blockSize ∈ [4096, 1024, 512, 256, 64]
  inSector : plan.blockSize ≤ part.sectorSize
  inBuffer : plan.blockSize ≤ part.ramBufferSize
  largest : ∀ size ∈ [4096, 1024, 512, 256, 64], size ≤ part.sectorSize →
    size ≤ part.ramBufferSize → size ≤ plan.blockSize
  whole : plan.blockSize.toNat ∣ plan.data.length
  notShort : 64 ≤ plan.data.length
  inFlash : plan.data.length ≤ part.flashSize.toNat
  covers : image.length ≤ plan.data.length
  /-- All bytes are those of the image, and zeros behind its end, except that the eighth vector
      may have been computed. -/
  kept : ∀ i, (mode = .compute → i < 28 ∨ 32 ≤ i) → plan.data.getD i 0 = image.data.getD i 0
  balanced : Image.vectorSum plan.data = 0
  /-- Code read protection stays off, also where the plan ends before its word. -/
  unprotected : 0x300 ≤ part.flashSize.toNat →
    (plan.flashed part).wordAt 0x2FC ∉ [0x4E697370, 0x12345678, 0x87654321, 0x43218765]

/-- **A plan that is made is valid**, and so is what it leaves in the flash. -/
theorem valid_of_make {part : Part} {b : Bytes} {image : Image} (some : Image.ofBytes b = .ok image)
    {mode : UserCode} {plan : Plan} (h : make part image mode = .ok plan) :
    plan.Valid part image mode := by
  have fits := fits_of_make h
  obtain ⟨prepared, prepare, h⟩ := exists_of_bind_eq_ok h
  obtain ⟨-, -, h⟩ := exists_of_bind_eq_ok h
  obtain ⟨-, -, h⟩ := exists_of_bind_eq_ok h
  obtain ⟨-, -, h⟩ := exists_of_bind_eq_ok h
  obtain ⟨blockSize, sized, h⟩ := exists_of_bind_eq_ok h
  obtain ⟨-, -, h⟩ := exists_of_bind_eq_ok h
  cases h
  have ready := Image.prepared_of_prepare prepare
  have same (i : Nat) : (prepared.blocks blockSize.toNat).getD i 0 = prepared.data.getD i 0 :=
    Bytes.getD_padTo ..
  have covers : image.length ≤ (prepared.blocks blockSize.toNat).length := by
    rw [length_blocks _ fits.blockSize_pos]
    exact Nat.le_trans ready.covers (le_roundUp fits.blockSize_pos _)
  have grid : 64 ∣ (prepared.blocks blockSize.toNat).length :=
    Nat.dvd_trans (dvd_of_mem_writeSizes fits.size) fits.whole
  have notEmpty : 0 < image.length := by
    unfold Image.ofBytes at some
    split at some
    · cases some
    · next content =>
      cases some
      exact List.length_pos_iff.mpr fun empty => content (List.isEmpty_iff.mpr empty)
  exact
    { listed := fits.size
      inSector := fits.inSector
      inBuffer := fits.inBuffer
      largest := fun _ => le_blockSizeFor sized
      whole := fits.whole
      notShort := Nat.le_of_dvd (Nat.lt_of_lt_of_le notEmpty covers) grid
      inFlash := fits.inFlash
      covers
      kept := fun i outside => (same i).trans (ready.kept i outside)
      balanced := by
        have words : Image.vectorSum (prepared.blocks blockSize.toNat) =
            Image.vectorSum prepared.data := by
          unfold Image.vectorSum Image.blocks
          simp only [Bytes.wordAt_padTo]
        rw [words, ready.balanced]
      unprotected := fun large => by
        rcases Nat.lt_or_ge (prepared.blocks blockSize.toNat).length 0x300 with short | long
        · have erased : (prepared.blocks blockSize.toNat).length ≤ 0x2FC := by omega
          rw [wordAt_flashed_of_ge erased large]
          decide
        · rw [wordAt_flashed_of_le long]
          show (Bytes.padTo _ _).wordAt protectionOffset ∉ protectionWords
          rw [Bytes.wordAt_padTo]
          exact ready.unprotected }

/-- An image that ends within its protection word, checked in the other mode. -/
theorem valid_of_make_rehearsed :
    let part : Part :=
      { id := 0, name := "LPC", flashBase := 0, flashSize := 4096, flashSectors := 4,
        resetVectorOffset := 4, ramBase := 0x10000000, ramSize := 256, ramBufferOffset := 64,
        ramBufferSize := 64, encoding := .lines }
    let image : Image := ⟨List.replicate 0x2FE 0⟩
    ∃ plan, make part image .verify = .ok plan ∧ plan.Valid part image .verify := by
  intro part image
  have made : make part image .verify = .ok ⟨List.replicate 0x300 0, 64⟩ := by decide +kernel
  exact ⟨_, made, valid_of_make (rfl : Image.ofBytes image.data = _) made⟩

end Plan
end SerialIsp
