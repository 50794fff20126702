import SerialIsp.Bytes

/-!
# Cutting, comparing and patching bytes

`Bytes.chunks` takes pieces from the front until nothing is left. The pieces are the data
again when they are put together, all of them but the last are full, and piece number `i`
starts `i * size` bytes in. Padding changes no byte, and a patch changes its own bytes only,
where a byte behind the end counts as zero.
-/

namespace SerialIsp.Bytes

/-! ## Pieces -/

theorem chunks_nil (size : Nat) : chunks size [] = [] := by
  rw [chunks]
  exact dif_pos (.inl rfl)

theorem chunks_of_ne_nil {size : Nat} {b : Bytes} (pos : 0 < size) (ne : b ≠ []) :
    chunks size b = b.take size :: chunks size (b.drop size) := by
  rw [chunks]
  exact dif_neg fun h => h.elim ne (Nat.ne_of_gt pos)

/-- Induction along the pieces. -/
theorem chunks_induction {size : Nat} (pos : 0 < size) {motive : Bytes → Prop}
    (nil : motive []) (step : ∀ b, b ≠ [] → motive (b.drop size) → motive b) (b : Bytes) :
    motive b := by
  induction h : b.length using Nat.strongRecOn generalizing b with
  | ind n ih =>
    by_cases empty : b = []
    · rw [empty]
      exact nil
    · have := List.length_pos_iff.mpr empty
      exact step b empty (ih _ (by rw [List.length_drop]; omega) (b.drop size) rfl)

theorem flatten_chunks {size : Nat} (pos : 0 < size) (b : Bytes) : (chunks size b).flatten = b := by
  induction b using chunks_induction pos with
  | nil => rw [chunks_nil, List.flatten_nil]
  | step b ne ih =>
    rw [chunks_of_ne_nil pos ne, List.flatten_cons, ih, List.take_append_drop]

theorem length_chunks {size : Nat} (pos : 0 < size) (b : Bytes) :
    (chunks size b).length = (b.length + (size - 1)) / size := by
  induction b using chunks_induction pos with
  | nil =>
    rw [chunks_nil, List.length_nil, List.length_nil, Nat.zero_add, Nat.div_eq_of_lt (by omega)]
  | step b ne ih =>
    have := List.length_pos_iff.mpr ne
    rw [chunks_of_ne_nil pos ne, List.length_cons, ih, List.length_drop]
    by_cases last : b.length ≤ size
    · rw [Nat.sub_eq_zero_of_le last, Nat.zero_add, Nat.div_eq_of_lt (by omega),
        show b.length + (size - 1) = b.length - 1 + size by omega, Nat.add_div_right _ pos,
        Nat.div_eq_of_lt (by omega)]
    · rw [show b.length + (size - 1) = b.length - size + (size - 1) + size by omega,
        Nat.add_div_right _ pos]

/-- Whole pieces in front are cut off as if they stood alone. -/
theorem chunks_append {size : Nat} {a : Bytes} (pos : 0 < size) (whole : size ∣ a.length)
    (b : Bytes) : chunks size (a ++ b) = chunks size a ++ chunks size b := by
  induction a using chunks_induction pos with
  | nil => rw [chunks_nil, List.nil_append, List.nil_append]
  | step a ne ih =>
    have fits : size ≤ a.length := Nat.le_of_dvd (List.length_pos_iff.mpr ne) whole
    have whole' : size ∣ (a.drop size).length := by
      rw [List.length_drop]
      exact Nat.dvd_sub whole (Nat.dvd_refl size)
    rw [chunks_of_ne_nil pos ne, chunks_of_ne_nil pos (List.append_ne_nil_of_left_ne_nil ne b),
      List.take_append_of_le_length fits, List.drop_append_of_le_length fits, ih whole',
      List.cons_append]

theorem length_of_append_prefix_chunks {size : Nat} {b c : Bytes} {cs : List Bytes}
    (pos : 0 < size) (h : cs ++ [c] <+: chunks size b) :
    0 < c.length ∧ c.length = min (b.length - cs.length * size) size := by
  induction cs generalizing b with
  | nil =>
    rcases Decidable.em (b = []) with rfl | ne
    · rw [chunks_nil] at h
      cases List.prefix_nil.mp h
    · have := List.length_pos_iff.mpr ne
      rw [chunks_of_ne_nil pos ne] at h
      rw [(List.cons_prefix_cons.mp h).1, List.length_take, List.length_nil]
      omega
  | cons d cs ih =>
    rcases Decidable.em (b = []) with rfl | ne
    · rw [chunks_nil] at h
      cases List.prefix_nil.mp h
    · rw [chunks_of_ne_nil pos ne] at h
      have last := ih (List.cons_prefix_cons.mp h).2
      rw [List.length_drop] at last
      rw [List.length_cons, Nat.succ_mul, Nat.add_comm, ← Nat.sub_sub]
      exact last

/-- The `size` bytes of piece number `i`. -/
def piece (size : Nat) (b : Bytes) (i : Nat) : Bytes := (b.drop (i * size)).take size

theorem length_piece {size : Nat} {b : Bytes} {i : Nat} (h : (i + 1) * size ≤ b.length) :
    (piece size b i).length = size := by
  rw [Nat.succ_mul] at h
  rw [piece, List.length_take, List.length_drop]
  omega

theorem getD_piece {size i : Nat} (b : Bytes) (number : Nat) (h : i < size) :
    (piece size b number).getD i 0 = b.getD (number * size + i) 0 := by
  rw [piece, List.getD_eq_getElem?_getD, List.getD_eq_getElem?_getD,
    List.getElem?_take_of_lt h, List.getElem?_drop]

theorem piece_drop (size : Nat) (b : Bytes) (i : Nat) :
    piece size (b.drop size) i = piece size b (i + 1) := by
  rw [piece, piece, List.drop_drop, Nat.succ_mul, Nat.add_comm]

/-- **Every piece by its number.** -/
theorem chunks_eq_map_piece {size : Nat} (pos : 0 < size) (b : Bytes) :
    chunks size b = (List.range (chunks size b).length).map (piece size b) := by
  induction b using chunks_induction pos with
  | nil => simp [chunks_nil]
  | step b ne ih =>
    rw [chunks_of_ne_nil pos ne, List.length_cons, List.range_succ_eq_map, List.map_cons,
      List.map_map]
    congr 1
    · rw [piece, Nat.zero_mul, List.drop_zero]
    · refine ih.trans (List.map_congr_left fun i _ => ?_)
      exact piece_drop size b i

theorem eq_piece_of_getElem?_chunks {size i : Nat} {b c : Bytes} (pos : 0 < size)
    (h : (chunks size b)[i]? = some c) : c = piece size b i ∧ c.length ≤ size := by
  rw [chunks_eq_map_piece pos, List.getElem?_map] at h
  obtain ⟨j, here, rfl⟩ := Option.map_eq_some_iff.mp h
  obtain ⟨_, rfl⟩ := List.getElem?_eq_some_iff.mp here
  rw [List.getElem_range]
  exact ⟨rfl, List.length_take_le _ _⟩

/-! ## Differences -/

theorem firstDifference_self (b : Bytes) : firstDifference b b = none := by
  induction b with
  | nil => rfl
  | cons c rest ih =>
    rw [firstDifference, List.zip_cons_cons, List.findIdx?_cons]
    simpa [firstDifference] using ih

theorem eq_of_firstDifference_eq_none {a b : Bytes} (length : a.length = b.length)
    (h : firstDifference a b = none) : a = b := by
  induction a generalizing b with
  | nil => exact (List.length_eq_zero_iff.mp length.symm).symm
  | cons c a ih =>
    cases b with
    | nil => cases length
    | cons d b =>
      rw [firstDifference, List.findIdx?_eq_none_iff, List.zip_cons_cons] at h
      have first := h (c, d) List.mem_cons_self
      have rest : firstDifference a b = none := by
        rw [firstDifference, List.findIdx?_eq_none_iff]
        exact fun pair mem => h pair (List.mem_cons_of_mem _ mem)
      rw [ih (Nat.succ.inj length) rest, show c = d by simpa using first]

/-- The difference that is found is the first one. -/
theorem of_firstDifference_eq_some {a b : Bytes} {i : Nat} (h : firstDifference a b = some i) :
    i < a.length ∧ a[i]? ≠ b[i]? ∧ ∀ j < i, a[j]? = b[j]? := by
  obtain ⟨inside, here, before⟩ := List.findIdx?_eq_some_iff_getElem.mp h
  have both {j : Nat} (lt : j < (a.zip b).length) : j < a.length ∧ j < b.length := by
    rw [List.length_zip] at lt
    omega
  obtain ⟨inA, inB⟩ := both inside
  refine ⟨inA, ?_, fun j lt => ?_⟩
  · rw [List.getElem?_eq_getElem inA, List.getElem?_eq_getElem inB]
    simpa using here
  · obtain ⟨inA', inB'⟩ := both (Nat.lt_trans lt inside)
    rw [List.getElem?_eq_getElem inA', List.getElem?_eq_getElem inB']
    simpa using before j lt

/-! ## Words -/

theorem getD_padTo (n : Nat) (b : Bytes) (i : Nat) : (padTo n b).getD i 0 = b.getD i 0 := by
  simp only [padTo, List.getD_eq_getElem?_getD]
  rcases Nat.lt_or_ge i b.length with inside | behind
  · rw [List.getElem?_append_left inside]
  · rw [List.getElem?_append_right behind, List.getElem?_replicate,
      List.getElem?_eq_none behind]
    split <;> rfl

theorem length_overwrite {b patch : Bytes} {offset : Nat}
    (h : offset + patch.length ≤ b.length) : (b.overwrite offset patch).length = b.length := by
  simp only [overwrite, List.length_append, List.length_take, List.length_drop]
  omega

theorem getD_overwrite_of_lt {b patch : Bytes} {offset i : Nat}
    (h : offset + patch.length ≤ b.length) (before : i < offset) :
    (b.overwrite offset patch).getD i 0 = b.getD i 0 := by
  have inside : i < (b.take offset).length := by
    rw [List.length_take]
    omega
  rw [overwrite, List.append_assoc, List.getD_eq_getElem?_getD, List.getD_eq_getElem?_getD,
    List.getElem?_append_left inside, List.getElem?_take_of_lt before]

theorem getD_overwrite_add {b patch : Bytes} {offset i : Nat}
    (h : offset + patch.length ≤ b.length) (inside : i < patch.length) :
    (b.overwrite offset patch).getD (offset + i) 0 = patch.getD i 0 := by
  have start : (b.take offset).length = offset := by
    rw [List.length_take]
    omega
  rw [overwrite, List.append_assoc, List.getD_eq_getElem?_getD, List.getD_eq_getElem?_getD,
    List.getElem?_append_right (by omega), start, Nat.add_sub_cancel_left,
    List.getElem?_append_left inside]

theorem getD_overwrite_of_ge {b patch : Bytes} {offset i : Nat}
    (h : offset + patch.length ≤ b.length) (behind : offset + patch.length ≤ i) :
    (b.overwrite offset patch).getD i 0 = b.getD i 0 := by
  have start : (b.take offset ++ patch).length = offset + patch.length := by
    rw [List.length_append, List.length_take]
    omega
  rw [overwrite, List.getD_eq_getElem?_getD, List.getD_eq_getElem?_getD,
    List.getElem?_append_right (by omega), start, List.getElem?_drop,
    Nat.add_sub_cancel' behind]

/-- A second patch of the same length takes the first one's place. -/
theorem overwrite_overwrite {b patch other : Bytes} {offset : Nat}
    (h : offset + patch.length ≤ b.length) (same : other.length = patch.length) :
    (b.overwrite offset patch).overwrite offset other = b.overwrite offset other := by
  have start : (b.take offset).length = offset := by
    rw [List.length_take]
    omega
  have patched : (b.take offset ++ patch).length = offset + patch.length := by
    rw [List.length_append, start]
  have front : (b.overwrite offset patch).take offset = b.take offset := by
    rw [overwrite, List.append_assoc, List.take_left' start]
  have back : (b.overwrite offset patch).drop (offset + patch.length) =
      b.drop (offset + patch.length) := by
    rw [overwrite, List.drop_left' patched]
  rw [overwrite, front, same, back, overwrite, same]

theorem padTo_of_le {n : Nat} {b : Bytes} (h : n ≤ b.length) : padTo n b = b := by
  rw [padTo, Nat.sub_eq_zero_of_le h, List.replicate_zero, List.append_nil]

/-- A word is settled by its four bytes. -/
theorem wordAt_congr {a b : Bytes} {i j : Nat}
    (h : ∀ k < 4, a.getD (i + k) 0 = b.getD (j + k) 0) : a.wordAt i = b.wordAt j := by
  simp only [wordAt, h 0 (by decide), h 1 (by decide), h 2 (by decide), h 3 (by decide)]

theorem wordAt_padTo (n : Nat) (b : Bytes) (i : Nat) : (padTo n b).wordAt i = b.wordAt i :=
  wordAt_congr fun k _ => getD_padTo n b (i + k)

theorem wordAt_ofWord (w : UInt32) : (ofWord w).wordAt 0 = w := by
  simp only [wordAt, ofWord, Nat.zero_add, List.getD_cons_zero, List.getD_cons_succ]
  -- bit for bit
  refine UInt32.eq_of_toBitVec_eq (BitVec.eq_of_getElem_eq fun i hi => ?_)
  simp only [UInt32.toBitVec_or, UInt8.toBitVec_toUInt32, UInt32.toBitVec_toUInt8,
    UInt32.toBitVec_shiftLeft, UInt32.toBitVec_shiftRight, UInt32.toBitVec_ofNat,
    BitVec.ofNat_eq_ofNat, BitVec.reduceMod, BitVec.ushiftRight_eq', BitVec.toNat_ofNat,
    Nat.reducePow, Nat.reduceMod, BitVec.shiftLeft_eq', BitVec.getElem_or,
    BitVec.getElem_setWidth, BitVec.getLsbD_setWidth, BitVec.getElem_shiftLeft,
    BitVec.getLsbD_ushiftRight]
  rw [← BitVec.getLsbD_eq_getElem]
  grind

/-- Four bytes are those of their word. -/
theorem ofWord_wordAt {b : Bytes} (four : b.length = 4) : ofWord (b.wordAt 0) = b := by
  obtain ⟨b0, b1, b2, b3, rfl⟩ : ∃ b0 b1 b2 b3, b = [b0, b1, b2, b3] := by
    match b, four with
    | [b0, b1, b2, b3], _ => exact ⟨b0, b1, b2, b3, rfl⟩
  simp only [wordAt, ofWord, Nat.zero_add, List.getD_cons_zero, List.getD_cons_succ,
    List.cons.injEq, and_true]
  refine ⟨?_, ?_, ?_, ?_⟩
  all_goals
    refine UInt8.eq_of_toBitVec_eq (BitVec.eq_of_getElem_eq fun i hi => ?_)
    simp only [UInt32.toBitVec_or, UInt8.toBitVec_toUInt32, UInt32.toBitVec_toUInt8,
      UInt32.toBitVec_shiftLeft, UInt32.toBitVec_shiftRight, UInt32.toBitVec_ofNat,
      BitVec.ofNat_eq_ofNat, BitVec.reduceMod, BitVec.ushiftRight_eq', BitVec.toNat_ofNat,
      Nat.reducePow, Nat.reduceMod, BitVec.shiftLeft_eq', BitVec.getElem_setWidth,
      BitVec.getLsbD_setWidth, BitVec.getLsbD_ushiftRight, BitVec.getLsbD_or,
      BitVec.getLsbD_shiftLeft]
    rw [← BitVec.getLsbD_eq_getElem]
    grind

end SerialIsp.Bytes
