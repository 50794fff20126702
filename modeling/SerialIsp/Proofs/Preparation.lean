import SerialIsp.Proofs.Validation

/-!
# Two ways to prepare an image

An image is prepared either by computing its eighth vector or by requiring that it is right
already. `Image.BothModes` says what the two modes come to and how they go together, for images
of any length.

Computing writes four bytes, and extends the image only as far as these bytes reach. So no word
changes but the eighth (`wordAt_withSum`): the vectors that are summed and the protection word are
those of the original image. All else follows: a second computation finds the same sum, the check
finds the sum that was written, and protection is what it was.
-/

namespace SerialIsp.Image

/-- The sum of the vectors in front of the eighth, modulo 2^32. -/
def leadingSum (image : Image) : UInt32 :=
  ((List.range 7).map fun i => image.data.wordAt (i * 4)).foldl (· + ·) 0

/-- The eighth vector makes the first eight sum to zero. -/
def Balanced (image : Image) : Prop := image.data.wordAt 28 = -image.leadingSum

/-- The code read protection word is one of the four that enable it. -/
def Protected (image : Image) : Prop :=
  image.data.wordAt 0x2FC ∈ [0x4E697370, 0x12345678, 0x87654321, 0x43218765]

instance : DecidablePred Balanced := fun _ => inferInstanceAs (Decidable (_ = _))

instance : DecidablePred Protected := fun _ => inferInstanceAs (Decidable (_ ∈ _))

theorem expectedSum_eq (image : Image) : image.expectedSum = -image.leadingSum := by
  have balanced : image.leadingSum + image.expectedSum = 0 := foldl_add_add_foldl_sub _ 0 0
  calc image.expectedSum
    _ = image.expectedSum + image.leadingSum - image.leadingSum := (UInt32.add_sub_cancel ..).symm
    _ = -image.leadingSum := by rw [UInt32.add_comm, balanced, UInt32.zero_sub]

/-! ## Computing the eighth vector -/

section

variable (image : Image)

theorem length_withSum : image.withSum.length = max image.length vectorTableLength := by
  show (Bytes.overwrite _ _ _).length = _
  rw [Bytes.length_overwrite image.sum_le_length_padTo, length_padTo_table, Nat.max_comm]

/-- The other words are as they were. -/
theorem wordAt_withSum {offset : Nat}
    (outside : offset + 4 ≤ sumOffset ∨ vectorTableLength ≤ offset) :
    image.withSum.data.wordAt offset = image.data.wordAt offset := by
  refine Bytes.wordAt_congr fun k small => image.getD_withSum ?_
  rcases outside with before | behind
  · exact .inl (by omega)
  · exact .inr (by omega)

theorem expectedSum_withSum : image.withSum.expectedSum = image.expectedSum := by
  have same (i : Nat) (mem : i ∈ List.range summedVectors) :
      image.withSum.data.wordAt (i * 4) = image.data.wordAt (i * 4) := by
    have before : i < 7 := List.mem_range.mp mem
    refine image.wordAt_withSum (.inl ?_)
    show i * 4 + 4 ≤ 28
    omega
  exact congrArg balancingWord (List.map_congr_left same)

theorem protection_withSum : image.withSum.protection = image.protection :=
  image.wordAt_withSum (.inr (by decide))

/-- Computing the eighth vector again changes nothing. -/
theorem withSum_withSum : image.withSum.withSum = image.withSum := by
  have long : vectorTableLength ≤ image.withSum.data.length := by
    show vectorTableLength ≤ image.withSum.length
    rw [length_withSum]
    exact Nat.le_max_right ..
  rw [withSum, Bytes.padTo_of_le long, expectedSum_withSum, withSum,
    Bytes.overwrite_overwrite image.sum_le_length_padTo rfl]

/-! ## Both modes -/

theorem checkProtection_eq : image.checkProtection =
    if image.Protected then .error (.protectedImage image.protection) else .ok () := by
  simp only [checkProtection, List.contains_iff_mem]
  rfl

theorem protected_withSum : image.withSum.Protected ↔ image.Protected := by
  show image.withSum.protection ∈ _ ↔ image.protection ∈ _
  rw [protection_withSum]

theorem prepare_compute : image.prepare .compute =
    if image.Protected then .error (.protectedImage image.protection)
    else .ok image.withSum := by
  show (do image.withSum.checkProtection; return image.withSum) = _
  simp only [checkProtection_eq, protection_withSum, protected_withSum]
  split <;> rfl

theorem prepare_verify : image.prepare .verify =
    if image.Balanced then
      if image.Protected then .error (.protectedImage image.protection) else .ok image
    else .error (.vectorSum (-image.leadingSum) image.storedSum) := by
  rw [prepare, settleSum, expectedSum_eq]
  by_cases zero : image.Balanced
  · have stored : image.storedSum = -image.leadingSum := zero
    rw [if_pos stored, if_pos zero]
    show (do image.checkProtection; return image) = _
    rw [checkProtection_eq]
    split <;> rfl
  · have stored : image.storedSum ≠ -image.leadingSum := zero
    rw [if_neg stored, if_neg zero]
    rfl

theorem balanced_withSum : image.withSum.Balanced := by
  show image.withSum.storedSum = _
  rw [storedSum_withSum, ← expectedSum_withSum, expectedSum_eq]

theorem settled_verify : image.settled .verify = image := by
  rw [settled, settleSum]
  by_cases stored : image.storedSum = image.expectedSum
  · rw [if_pos stored]
  · rw [if_neg stored]

end

/-- What the two modes make of an image. Bytes behind its end count as zeros in its words. -/
structure BothModes (image : Image) : Prop where
  /-- An image that is handed on is the one that is left. -/
  handed : ∀ mode prepared, image.prepare mode = .ok prepared → image.settled mode = prepared
  verify_kept : image.settled .verify = image
  verify_iff : image.prepare .verify = .ok image ↔ image.Balanced ∧ ¬ image.Protected
  compute_length : (image.settled .compute).length = max image.length 32
  compute_kept : ∀ i, i < 28 ∨ 32 ≤ i →
    (image.settled .compute).data.getD i 0 = image.data.getD i 0
  compute_iff : image.prepare .compute = .ok (image.settled .compute) ↔ ¬ image.Protected
  /-- A second computation leaves the image that the first one left, and has its outcome. -/
  compute_again : (image.settled .compute).settled .compute = image.settled .compute ∧
    (image.settled .compute).prepare .compute = image.prepare .compute
  /-- What was computed passes the check. -/
  compute_verify : ∀ prepared, image.prepare .compute = .ok prepared →
    prepared.prepare .verify = .ok prepared
  /-- Protection fails both modes, but it is not looked at where the check fails before. -/
  protected_fails : image.Protected →
    image.prepare .compute = .error (.protectedImage (image.data.wordAt 0x2FC)) ∧
      (image.Balanced →
        image.prepare .verify = .error (.protectedImage (image.data.wordAt 0x2FC)))
  unbalanced_fails : ¬ image.Balanced →
    image.prepare .verify = .error (.vectorSum (-image.leadingSum) (image.data.wordAt 28))

/-- **The two modes agree on what a prepared image is.** -/
theorem bothModes (image : Image) : image.BothModes where
  handed mode prepared h := by
    obtain ⟨settled, sum, h⟩ := exists_of_bind_eq_ok h
    obtain ⟨-, -, h⟩ := exists_of_bind_eq_ok h
    cases h
    rw [Image.settled, sum]
  verify_kept := image.settled_verify
  verify_iff := by
    rw [prepare_verify]
    by_cases zero : image.Balanced <;> by_cases guarded : image.Protected <;>
      simp [zero, guarded]
  compute_length := image.length_withSum
  compute_kept _ outside := image.getD_withSum outside
  compute_iff := by
    rw [prepare_compute]
    by_cases guarded : image.Protected
    · simp [guarded]
    · rw [if_neg guarded]
      exact iff_of_true rfl guarded
  compute_again := by
    refine ⟨image.withSum_withSum, ?_⟩
    show image.withSum.prepare .compute = image.prepare .compute
    simp only [prepare_compute, withSum_withSum, protection_withSum, protected_withSum]
  compute_verify prepared h := by
    rw [prepare_compute] at h
    split at h
    · cases h
    · next unprotected =>
      cases h
      have still : ¬ image.withSum.Protected := mt image.protected_withSum.mp unprotected
      rw [prepare_verify, if_pos image.balanced_withSum, if_neg still]
  protected_fails guarded := by
    rw [prepare_compute, prepare_verify, if_pos guarded, if_pos guarded]
    exact ⟨rfl, fun zero => if_pos zero⟩
  unbalanced_fails nonzero := by
    rw [prepare_verify, if_neg nonzero]
    rfl

end SerialIsp.Image
