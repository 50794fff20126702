import SerialIsp.Part.Basic
import SerialIsp.Proofs.Plans

/-!
# The memory of a device

Flash and RAM by address, and what a bootloader can do to them. Flash is erased by sectors and
programmed by copies from RAM, and a copy can only clear bits: what was not erased before is
the conjunction of both contents afterwards. The memory keeps in mind which addresses a copy
ever reached.
-/

namespace SerialIsp

/-- The memory of a device. -/
structure Memory where
  flash : Nat → UInt8
  ram : Nat → UInt8
  /-- The addresses a copy to flash has reached. -/
  programmed : Nat → Bool

/-- A memory nothing was copied to so far. -/
def Memory.ofContent (flash ram : Nat → UInt8) : Memory := ⟨flash, ram, fun _ => false⟩

/-- Whether an address lies in one of some sectors. -/
def Part.inSectors (part : Part) (first last address : Nat) : Bool :=
  part.flashBase.toNat + first * part.sectorSize.toNat ≤ address &&
    address < part.flashBase.toNat + (last + 1) * part.sectorSize.toNat

/-- Whether an address lies in the flash. -/
def Part.inFlash (part : Part) (address : Nat) : Bool :=
  part.flashBase.toNat ≤ address && address < part.flashBase.toNat + part.flashSize.toNat

namespace Memory

/-- What erased flash holds. -/
def erased : UInt8 := 0xFF

/-- Stores bytes in RAM, from an address on. -/
def store (m : Memory) (address : Nat) (b : Bytes) : Memory :=
  { m with ram := fun a =>
      if address ≤ a ∧ a < address + b.length then b.getD (a - address) 0 else m.ram a }

/-- Copies bytes from RAM to flash, where they can only clear bits. -/
def copy (m : Memory) (target source size : Nat) : Memory :=
  { m with
    flash := fun a =>
      if target ≤ a ∧ a < target + size then m.flash a &&& m.ram (source + (a - target))
      else m.flash a
    programmed := fun a => m.programmed a || (target ≤ a && a < target + size) }

/-- Erases sectors. -/
def erase (m : Memory) (part : Part) (first last : Nat) : Memory :=
  { m with flash := fun a => if part.inSectors first last a then erased else m.flash a }

/-- Whether all bytes of some sectors are erased. -/
def isBlank (m : Memory) (part : Part) (first last : Nat) : Bool :=
  (List.range' (part.flashBase.toNat + first * part.sectorSize.toNat)
    ((last + 1 - first) * part.sectorSize.toNat)).all fun a => m.flash a = erased

theorem erased_and (v : UInt8) : erased &&& v = v :=
  UInt8.eq_of_toBitVec_eq (BitVec.allOnes_and)

/-- What is stored in two parts is stored. -/
theorem store_store (m : Memory) (address : Nat) (b c : Bytes) :
    (m.store address b).store (address + b.length) c = m.store address (b ++ c) := by
  unfold store
  congr 1
  funext a
  simp only [List.length_append]
  by_cases second : address + b.length ≤ a ∧ a < address + b.length + c.length
  · rw [if_pos second, if_pos (by omega), List.getD_eq_getElem?_getD, List.getD_eq_getElem?_getD,
      List.getElem?_append_right (by omega), Nat.sub_add_eq]
  · rw [if_neg second]
    by_cases first : address ≤ a ∧ a < address + b.length
    · rw [if_pos first, if_pos (by omega), List.getD_eq_getElem?_getD,
        List.getD_eq_getElem?_getD, List.getElem?_append_left (by omega)]
    · rw [if_neg first, if_neg (by omega)]

/-- Bytes that were just stored are copied as they are, onto what the flash held. -/
theorem copy_store (m : Memory) (target address : Nat) (b : Bytes) (a : Nat) :
    ((m.store address b).copy target address b.length).flash a =
      if target ≤ a ∧ a < target + b.length then m.flash a &&& b.getD (a - target) 0
      else m.flash a := by
  unfold copy
  dsimp only
  by_cases inside : target ≤ a ∧ a < target + b.length
  · rw [if_pos inside, if_pos inside]
    unfold store
    dsimp only
    rw [if_pos (by omega), Nat.add_sub_cancel_left]
  · rw [if_neg inside, if_neg inside]
    rfl

theorem erase_of_isBlank {m : Memory} {part : Part} {sector : Nat}
    (blank : m.isBlank part sector sector = true) : m.erase part sector sector = m := by
  unfold erase
  have same :
      (fun a => if part.inSectors sector sector a then erased else m.flash a) = m.flash := by
    funext a
    split
    · next inside =>
      rw [isBlank, List.all_eq_true] at blank
      have here := blank a (by
        rw [Part.inSectors, Bool.and_eq_true, decide_eq_true_eq, decide_eq_true_eq,
          Nat.succ_mul] at inside
        rw [List.mem_range'_1, Nat.add_sub_cancel_left]
        omega)
      exact (of_decide_eq_true here).symm
    · rfl
  rw [same]

/-- The first sectors of a part, erased one by one. -/
def eraseFirst (m : Memory) (part : Part) : (sectors : Nat) → Memory
  | 0 => m
  | n + 1 => (m.eraseFirst part n).erase part n n

theorem eraseFirst_eq (m : Memory) (part : Part) (n : Nat) :
    m.eraseFirst part n =
      { m with
        flash := fun a =>
          if part.flashBase.toNat ≤ a ∧ a < part.flashBase.toNat + n * part.sectorSize.toNat
          then erased else m.flash a } := by
  induction n with
  | zero =>
    rw [eraseFirst, Nat.zero_mul]
    have none (a : Nat) :
        ¬ (part.flashBase.toNat ≤ a ∧ a < part.flashBase.toNat + 0) := by omega
    simp only [none, ↓reduceIte]
  | succ n ih =>
    rw [eraseFirst, ih, erase]
    congr 1
    funext a
    simp only [Part.inSectors, Bool.and_eq_true, decide_eq_true_eq, Nat.succ_mul]
    by_cases last : part.flashBase.toNat + n * part.sectorSize.toNat ≤ a ∧
        a < part.flashBase.toNat + (n * part.sectorSize.toNat + part.sectorSize.toNat)
    · rw [if_pos last, if_pos (by omega)]
    · rw [if_neg last]
      by_cases before : part.flashBase.toNat ≤ a ∧
          a < part.flashBase.toNat + n * part.sectorSize.toNat
      · rw [if_pos before, if_pos (by omega)]
      · rw [if_neg before, if_neg (by omega)]

/-- Programs the pieces of some data one by one, by way of the RAM at `buffer`. -/
def programFirst (m : Memory) (base buffer size : Nat) (data : Bytes) : (pieces : Nat) → Memory
  | 0 => m
  | n + 1 =>
    ((m.programFirst base buffer size data n).store buffer (Bytes.piece size data n)).copy
      (base + n * size) buffer size

/-- **Programming erased flash** leaves the data in it, and nothing else is touched. -/
theorem programFirst_spec (m : Memory) {base size : Nat} {data : Bytes} (buffer n : Nat)
    (room : n * size ≤ data.length)
    (blank : ∀ a, base ≤ a → a < base + n * size → m.flash a = erased) (a : Nat) :
    (m.programFirst base buffer size data n).flash a =
        (if base ≤ a ∧ a < base + n * size then data.getD (a - base) 0 else m.flash a) ∧
      (m.programFirst base buffer size data n).programmed a =
        (m.programmed a || (base ≤ a && a < base + n * size)) := by
  induction n with
  | zero =>
    have none : ¬ (base ≤ a ∧ a < base + 0 * size) := by omega
    rw [if_neg none, ← Bool.decide_and, decide_eq_false none, Bool.or_false]
    exact ⟨rfl, rfl⟩
  | succ n ih =>
    rw [Nat.succ_mul] at room
    have length : (Bytes.piece size data n).length = size :=
      Bytes.length_piece (by rw [Nat.succ_mul]; exact room)
    obtain ⟨flash, programmed⟩ := ih (by omega) fun a h h' => blank a h (by
      rw [Nat.succ_mul]
      omega)
    constructor
    -- the piece lands on erased flash, so that no bit of it is lost
    · have copied := copy_store (m.programFirst base buffer size data n) (base + n * size) buffer
        (Bytes.piece size data n) a
      rw [length] at copied
      rw [programFirst, copied, flash]
      by_cases last : base + n * size ≤ a ∧ a < base + n * size + size
      · rw [if_pos last, if_neg (by omega), if_pos (by rw [Nat.succ_mul]; omega),
          blank a (by omega) (by rw [Nat.succ_mul]; omega), erased_and,
          Bytes.getD_piece _ _ (by omega)]
        congr 1
        omega
      · rw [if_neg last]
        by_cases before : base ≤ a ∧ a < base + n * size
        · rw [if_pos before, if_pos (by rw [Nat.succ_mul]; omega)]
        · rw [if_neg before, if_neg (by rw [Nat.succ_mul]; omega)]
    · rw [programFirst, copy]
      dsimp only
      rw [store, programmed, Bool.or_assoc, Bool.eq_iff_iff]
      simp only [Bool.or_eq_true, Bool.and_eq_true, decide_eq_true_eq, Nat.succ_mul]
      refine or_congr_right ?_
      omega

end Memory
end SerialIsp
