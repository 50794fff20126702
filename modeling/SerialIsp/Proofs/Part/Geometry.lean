import SerialIsp.Proofs.Part.LookUp

/-!
# Possible geometries

The check of a geometry is exact, but for one end of the flash. It refuses a flash that has bytes
behind the last address, and one that does not divide into sectors of one size. It also refuses a
flash whose last byte has the last address (`EndsLast`): the check is for an end that fits a word,
and the end of the address space does not. Every other part is accepted, and a look-up that comes
to a part says what its check says.

What an accepted part is worth is `Tiled`: the sector that is computed for a byte of the flash is
one of its sectors, and the byte lies in it.
-/

namespace SerialIsp.Part

/-! ## What is refused -/

/-- The address behind the last byte of the flash, without bound. -/
def flashEnd (part : Part) : Nat := part.flashBase.toNat + part.flashSize.toNat

/-- The flash has bytes behind the last address. -/
def Overruns (part : Part) : Prop := UInt32.size < part.flashEnd

/-- The last byte of the flash has the last address. -/
def EndsLast (part : Part) : Prop := part.flashEnd = UInt32.size

/-- The flash does not divide into sectors of one size. -/
def Uneven (part : Part) : Prop :=
  part.flashSectors = 0 ∨ ¬ part.flashSectors.toNat ∣ part.flashSize.toNat

instance (part : Part) : Decidable part.Overruns := inferInstanceAs (Decidable (_ < _))

instance (part : Part) : Decidable part.EndsLast := inferInstanceAs (Decidable (_ = _))

instance (part : Part) : Decidable part.Uneven := inferInstanceAs (Decidable (_ ∨ _))

variable {part : Part}

theorem uneven_iff : part.Uneven ↔
    part.flashSectors = 0 ∨ part.flashSize % part.flashSectors ≠ 0 := by
  refine or_congr_right (not_congr ?_)
  rw [Nat.dvd_iff_mod_eq_zero, ← UInt32.toNat_mod]
  exact UInt32.toNat_inj (b := 0)

theorem checkGeometry_of_past (past : UInt32.size ≤ part.flashEnd) :
    part.checkGeometry =
      .error (.badGeometry part.name (.pastAddressSpace part.flashSize part.flashBase)) :=
  if_pos past

theorem checkGeometry_of_uneven (inside : part.flashEnd < UInt32.size) (uneven : part.Uneven) :
    part.checkGeometry =
      .error (.badGeometry part.name (.unevenSectors part.flashSize part.flashSectors)) :=
  (if_neg (Nat.not_le.mpr inside)).trans (if_pos (uneven_iff.mp uneven))

theorem checkGeometry_of_even (inside : part.flashEnd < UInt32.size) (even : ¬ part.Uneven) :
    part.checkGeometry = .ok () :=
  (if_neg (Nat.not_le.mpr inside)).trans (if_neg fun uneven => even (uneven_iff.mpr uneven))

/-- **What is refused.** -/
theorem exists_badGeometry_iff :
    (∃ fault, part.checkGeometry = .error (.badGeometry part.name fault)) ↔
      part.Overruns ∨ part.EndsLast ∨ part.Uneven := by
  rcases Nat.lt_or_ge part.flashEnd UInt32.size with inside | past
  · have overruns : ¬ part.Overruns := Nat.lt_asymm inside
    have endsLast : ¬ part.EndsLast := Nat.ne_of_lt inside
    simp only [overruns, endsLast, false_or]
    refine ⟨?_, fun uneven => ⟨_, checkGeometry_of_uneven inside uneven⟩⟩
    rintro ⟨fault, refused⟩
    refine Decidable.byContradiction fun even => ?_
    rw [checkGeometry_of_even inside even] at refused
    cases refused
  · refine iff_of_true ⟨_, checkGeometry_of_past past⟩ ?_
    rcases Nat.lt_or_eq_of_le past with overruns | endsLast
    · exact .inl overruns
    · exact .inr (.inl endsLast.symm)

theorem checkGeometry_of_possible (possible : ¬ (part.Overruns ∨ part.EndsLast ∨ part.Uneven)) :
    part.checkGeometry = .ok () := by
  rw [not_or, not_or] at possible
  obtain ⟨overruns, endsLast, even⟩ := possible
  have inside : part.flashEnd < UInt32.size := Nat.lt_of_le_of_ne (Nat.not_lt.mp overruns) endsLast
  exact checkGeometry_of_even inside even

/-! ## Sectors -/

/-- A byte of the flash lies in the sector that is computed for it, which is one of the part's. -/
def InSector (part : Part) (offset : UInt32) : Prop :=
  part.sectorOf offset < part.flashSectors ∧
    (part.sectorOf offset).toNat * part.sectorSize.toNat ≤ offset.toNat ∧
    offset.toNat < ((part.sectorOf offset).toNat + 1) * part.sectorSize.toNat

/-- **The sectors tile the flash.** -/
theorem inSector_of_checkGeometry (geometry : part.checkGeometry = .ok ()) {offset : UInt32}
    (inside : offset < part.flashSize) : part.InSector offset := by
  have all := sectors_mul_sectorSize geometry
  have inside : offset.toNat < part.flashSectors.toNat * part.sectorSize.toNat := by
    rw [all]
    exact inside
  have pos : 0 < part.sectorSize.toNat := Nat.pos_of_mul_pos_left (Nat.zero_lt_of_lt inside)
  have sector : (part.sectorOf offset).toNat = offset.toNat / part.sectorSize.toNat := by
    rw [sectorOf, max_one pos, UInt32.toNat_div]
  refine ⟨?_, ?_, ?_⟩
  · rw [UInt32.lt_iff_toNat_lt, sector]
    exact (Nat.div_lt_iff_lt_mul pos).mpr inside
  · rw [sector]
    exact Nat.div_mul_le_self ..
  · rw [sector, Nat.succ_mul]
    exact Nat.lt_div_mul_add pos

/-! ## Looking up -/

namespace Source

/-- What a source describes in front of a part are parts with other identifiers. -/
def FirstMatch (read : Text.LiteralReader) (source : Source) (fs : Files) (part : Part) : Prop :=
  ∃ before behind, source.recordsBy read fs = .ok (before ++ .ok part :: behind) ∧
    ∀ record ∈ before, ∃ other : Part, record = .ok other ∧ other.id ≠ part.id

variable {read : Text.LiteralReader} {source : Source} {fs : Files}

/-- A look-up that comes to a part says what its check says. -/
theorem findBy_of_firstMatch (first : FirstMatch read source fs part) :
    source.findBy read fs part.id = part.checkGeometry.map fun _ => part := by
  obtain ⟨before, behind, described, others⟩ := first
  have passed : before.find? (settles part.id) = none := by
    refine List.find?_eq_none.mpr fun record mem => ?_
    obtain ⟨other, rfl, ne⟩ := others record mem
    exact fun same => ne (of_decide_eq_true same)
  have settled : settles part.id (.ok part) = true := decide_eq_true rfl
  rw [findBy_eq described, List.find?_append, passed, Option.none_or,
    List.find?_cons_of_pos settled, answer]
  cases part.checkGeometry <;> rfl

end Source

/-- **A geometry is settled by its numbers.** A part is refused, by the check and by a look-up
    that comes to it, when its flash runs past the last address or up to its end, or is uneven.
    Any other part is accepted by both, and its sectors tile its flash. -/
theorem geometry_settled (part : Part) :
    (part.Overruns ∨ part.EndsLast ∨ part.Uneven → ∃ fault,
      part.checkGeometry = .error (.badGeometry part.name fault) ∧
      ∀ read source fs, Source.FirstMatch read source fs part →
        source.findBy read fs part.id = .error (.badGeometry part.name fault)) ∧
    (¬ (part.Overruns ∨ part.EndsLast ∨ part.Uneven) →
      part.checkGeometry = .ok () ∧
      (∀ read source fs, Source.FirstMatch read source fs part →
        source.findBy read fs part.id = .ok part) ∧
      ∀ offset < part.flashSize, part.InSector offset) := by
  constructor
  · intro impossible
    obtain ⟨fault, refused⟩ := exists_badGeometry_iff.mpr impossible
    refine ⟨fault, refused, fun read source fs first => ?_⟩
    rw [Source.findBy_of_firstMatch first, refused]
    rfl
  · intro possible
    have accepted := checkGeometry_of_possible possible
    refine ⟨accepted, fun read source fs first => ?_, fun offset => ?_⟩
    · rw [Source.findBy_of_firstMatch first, accepted]
      rfl
    · exact inSector_of_checkGeometry accepted

/-- Two sectors at the end of the address space, but for its last two bytes. -/
def nearEnd : Part where
  id := 0x10
  name := "LPCX"
  flashBase := 0xFFFFFC00
  flashSize := 0x3FE
  flashSectors := 2
  resetVectorOffset := 4
  ramBase := 0x10000000
  ramSize := 0x400
  ramBufferOffset := 0x200
  ramBufferSize := 0x100
  encoding := .lines

/-- A parts file that describes them behind another part. -/
def nearEndFiles : Files where
  workingDirectory := []
  entries := [(["parts"], Bytes.ascii
    ("0x20, LPC111, 0, 64, 2, 4, 0, 64, 0, 64, 1\n" ++
      "0x10, LPCX, 0xFFFFFC00, 0x3FE, 2, 4, 0x10000000, 0x400, 0x200, 0x100, 1"))]

/-- They are found, and their last byte is in the second one. -/
theorem geometry_settled_nearEnd :
    let source := Source.file "/parts"
    ¬ (nearEnd.Overruns ∨ nearEnd.EndsLast ∨ nearEnd.Uneven) ∧
      Source.FirstMatch Text.readLiteral source nearEndFiles nearEnd ∧
      source.findBy Text.readLiteral nearEndFiles nearEnd.id = .ok nearEnd ∧
      (0x3FD : UInt32) < nearEnd.flashSize ∧ nearEnd.sectorOf 0x3FD = 1 ∧
      nearEnd.InSector 0x3FD := by
  intro source
  have possible : ¬ (nearEnd.Overruns ∨ nearEnd.EndsLast ∨ nearEnd.Uneven) := by decide
  have first : Source.FirstMatch Text.readLiteral source nearEndFiles nearEnd := by
    refine ⟨[.ok ⟨0x20, "LPC111", 0, 64, 2, 4, 0, 64, 0, 64, .lines⟩], [], ?_, ?_⟩
    · decide +kernel
    · intro record mem
      exact ⟨_, List.mem_singleton.mp mem, by decide⟩
  have inside : (0x3FD : UInt32) < nearEnd.flashSize := by decide
  obtain ⟨-, found, tiled⟩ := (geometry_settled nearEnd).2 possible
  exact ⟨possible, first, found _ _ _ first, inside, by decide, tiled _ inside⟩

/-- **Not every flash that is refused is impossible.** One that ends with the address space is
    refused as running past its end. -/
theorem refuses_last_address : ¬ ∀ part : Part,
    (∃ failure, part.checkGeometry = .error failure) ↔ part.Overruns ∨ part.Uneven := by
  intro exactly
  let part := { nearEnd with flashSize := 0x400 }
  have refused : ∃ failure, part.checkGeometry = .error failure :=
    ⟨_, checkGeometry_of_past (by decide)⟩
  have possible : ¬ (part.Overruns ∨ part.Uneven) := by decide
  exact possible ((exactly part).mp refused)

end SerialIsp.Part
