import SerialIsp.Wire.Line
import SerialIsp.Proofs.Bytes

/-!
# Printable lines read back

`decode` undoes `encode`, and `encodedLength` tells beforehand how long the lines will be. A
group of three bytes is four characters of six bits, so the law of a group is one of bits; a
line is groups behind their count; a text is lines.
-/

namespace SerialIsp.Wire

/-! ## Characters -/

theorem sixBits_sixBitChar (v : UInt8) : sixBits (sixBitChar v) = v &&& 0x3F := by
  have all : ∀ n < 256, sixBits (sixBitChar (UInt8.ofNat n)) = UInt8.ofNat n &&& 0x3F := by
    decide +kernel
  have this := all v.toNat v.toNat_lt
  rwa [UInt8.ofNat_toNat] at this

theorem isControl_sixBitChar (v : UInt8) : isControl (sixBitChar v) = false := by
  have all : ∀ n < 256, isControl (sixBitChar (UInt8.ofNat n)) = false := by decide +kernel
  have this := all v.toNat v.toNat_lt
  rwa [UInt8.ofNat_toNat] at this

/-! ## Groups -/

theorem eq_of_bits {a b : UInt8} (h : ∀ i (_ : i < 8), a.toBitVec[i] = b.toBitVec[i]) : a = b :=
  UInt8.eq_of_toBitVec_eq (BitVec.eq_of_getElem_eq h)

theorem eight_cases {motive : (i : Nat) → i < 8 → Prop} (h₀ : motive 0 (by decide))
    (h₁ : motive 1 (by decide)) (h₂ : motive 2 (by decide)) (h₃ : motive 3 (by decide))
    (h₄ : motive 4 (by decide)) (h₅ : motive 5 (by decide)) (h₆ : motive 6 (by decide))
    (h₇ : motive 7 (by decide)) : ∀ i (h : i < 8), motive i h
  | 0, _ => h₀
  | 1, _ => h₁
  | 2, _ => h₂
  | 3, _ => h₃
  | 4, _ => h₄
  | 5, _ => h₅
  | 6, _ => h₆
  | 7, _ => h₇

theorem first_of_group (a b : UInt8) :
    (a >>> 2 &&& 0x3F) <<< 2 ||| ((a <<< 4 ||| b >>> 4) &&& 0x3F) >>> 4 = a := by
  refine eq_of_bits (eight_cases ?_ ?_ ?_ ?_ ?_ ?_ ?_ ?_) <;> simp

theorem second_of_group (a b c : UInt8) :
    ((a <<< 4 ||| b >>> 4) &&& 0x3F) <<< 4 ||| ((b <<< 2 ||| c >>> 6) &&& 0x3F) >>> 2 = b := by
  refine eq_of_bits (eight_cases ?_ ?_ ?_ ?_ ?_ ?_ ?_ ?_) <;> simp

theorem third_of_group (b c : UInt8) :
    ((b <<< 2 ||| c >>> 6) &&& 0x3F) <<< 6 ||| (c &&& 0x3F) = c := by
  refine eq_of_bits (eight_cases ?_ ?_ ?_ ?_ ?_ ?_ ?_ ?_) <;> simp

/-- **A group reads back** as the bytes it was made from. -/
theorem decodeGroups_encodeGroup (a b c : UInt8) (rest : Bytes) :
    decodeGroups (encodeGroup a b c ++ rest) = a :: b :: c :: decodeGroups rest := by
  simp only [encodeGroup, List.cons_append, List.nil_append, decodeGroups, sixBits_sixBitChar,
    first_of_group, second_of_group, third_of_group]

theorem take_decodeGroups_encodeGroups (b : Bytes) :
    (decodeGroups (encodeGroups b)).take b.length = b := by
  induction b using encodeGroups.induct with
  | case1 => rfl
  | case2 a =>
    rw [encodeGroups, ← List.append_nil (encodeGroup a 0 0), decodeGroups_encodeGroup]
    rfl
  | case3 a b =>
    rw [encodeGroups, ← List.append_nil (encodeGroup a b 0), decodeGroups_encodeGroup]
    rfl
  | case4 a b c rest ih =>
    rw [encodeGroups, decodeGroups_encodeGroup, List.length_cons, List.length_cons,
      List.length_cons, List.take_succ_cons, List.take_succ_cons, List.take_succ_cons, ih]

theorem length_encodeGroups (b : Bytes) : (encodeGroups b).length = groupLength b.length := by
  induction b using encodeGroups.induct with
  | case1 => rfl
  | case2 a => simp [encodeGroups, encodeGroup, groupLength]
  | case3 a b => simp [encodeGroups, encodeGroup, groupLength]
  | case4 a b c rest ih =>
    rw [encodeGroups, List.length_append, ih]
    simp only [encodeGroup, groupLength, List.length_cons, List.length_nil]
    omega

theorem isControl_of_mem_encodeGroups {b : Bytes} {c : UInt8} (h : c ∈ encodeGroups b) :
    isControl c = false := by
  have group {a b c d : UInt8} (h : d ∈ encodeGroup a b c) : isControl d = false := by
    simp only [encodeGroup, List.mem_cons, List.not_mem_nil, or_false] at h
    rcases h with rfl | rfl | rfl | rfl
    all_goals exact isControl_sixBitChar _
  induction b using encodeGroups.induct with
  | case1 => cases h
  | case2 a => exact group h
  | case3 a b => exact group h
  | case4 a b c rest ih =>
    rw [encodeGroups] at h
    rcases List.mem_append.mp h with here | later
    · exact group here
    · exact ih later

/-! ## Lines -/

/-- The characters of full lines are known beforehand, and so is the length of a text. -/
theorem length_encode (b : Bytes) : (encode b).length = encodedLength b.length := by
  have pos : 0 < lineCapacity := by decide
  induction b using Bytes.chunks_induction pos with
  | nil =>
    rw [encode, Bytes.chunks_nil]
    rfl
  | step b ne ih =>
    -- a full line is fifteen whole groups, so the lengths of lines add up
    have := List.length_pos_iff.mpr ne
    rw [encode] at ih ⊢
    rw [Bytes.chunks_of_ne_nil pos ne, List.flatMap_cons, List.length_append, ih, encodeLine]
    simp only [List.length_append, List.length_cons, List.length_nil, length_encodeGroups,
      List.length_take, List.length_drop, encodedLength, groupLength, lineCapacity] at *
    omega

/-- Control characters are skipped. -/
theorem decodeFrom_gap {gap : Bytes} (control : ∀ c ∈ gap, isControl c = true) (offset : Nat)
    (rest : Bytes) : decodeFrom offset (gap ++ rest) = decodeFrom (offset + gap.length) rest := by
  induction gap generalizing offset with
  | nil => rfl
  | cons c gap ih =>
    have later := ih (fun d mem => control d (List.mem_cons_of_mem c mem)) (offset + 1)
    rw [List.cons_append, decodeFrom, if_pos (control c List.mem_cons_self), later,
      List.length_cons, Nat.add_assoc, Nat.add_comm 1]

/-- A whole line is read, and reading goes on behind it. -/
theorem decodeFrom_line {head : UInt8} {body : Bytes} (plain : isControl head = false)
    (counts : (sixBits head).toNat ≠ 0)
    (whole : body.length = groupLength (sixBits head).toNat) (clean : body.any isControl = false)
    (offset : Nat) (rest : Bytes) :
    decodeFrom offset (head :: body ++ rest) =
      (decodeFrom (offset + (head :: body).length) rest).map
        ((decodeGroups body).take (sixBits head).toNat ++ ·) := by
  rw [List.cons_append, decodeFrom, plain]
  simp only [Bool.false_eq_true, ↓reduceIte, counts]
  rw [← whole, List.take_left, List.drop_left]
  simp only [Nat.lt_irrefl, decide_false, clean, Bool.or_false, Bool.false_eq_true, ↓reduceIte]
  rw [List.length_cons, Nat.add_assoc, Nat.add_comm 1]
  cases decodeFrom (offset + (body.length + 1)) rest with
  | error cut => rfl
  | ok tail => rfl

/-- A line reads back, and reading goes on behind its end. -/
theorem decodeFrom_encodeLine {b : Bytes} (ne : b ≠ []) (fits : b.length ≤ lineCapacity)
    (offset : Nat) (rest : Bytes) :
    decodeFrom offset (encodeLine b ++ rest) =
      (decodeFrom (offset + (encodeLine b).length) rest).map (b ++ ·) := by
  have pos := List.length_pos_iff.mpr ne
  have fits : b.length ≤ 45 := fits
  have count : (sixBits (sixBitChar b.length.toUInt8)).toNat = b.length := by
    have all : ∀ n < 46, (sixBits (sixBitChar (Nat.toUInt8 n))).toNat = n := by decide
    exact all b.length (by omega)
  have clean : (encodeGroups b).any isControl = false := by
    rw [List.any_eq_false]
    exact fun c mem => by simp [isControl_of_mem_encodeGroups mem]
  have line := decodeFrom_line (isControl_sixBitChar _) (count.symm ▸ Nat.ne_of_gt pos)
    (by rw [count, length_encodeGroups]) clean offset ([Bytes.cr, Bytes.lf] ++ rest)
  have control : ∀ c ∈ [Bytes.cr, Bytes.lf], isControl c = true := List.all_eq_true.mp rfl
  have behind := decodeFrom_gap control
    (offset + (sixBitChar b.length.toUInt8 :: encodeGroups b).length) rest
  rw [behind, count, take_decodeGroups_encodeGroups] at line
  rw [encodeLine, List.append_assoc, line, List.length_append, Nat.add_assoc]

theorem encode_of_ne_nil {b : Bytes} (ne : b ≠ []) :
    encode b = encodeLine (b.take lineCapacity) ++ encode (b.drop lineCapacity) := by
  rw [encode, Bytes.chunks_of_ne_nil (by decide) ne, List.flatMap_cons, ← encode]

/-- **What was written as lines reads back**, and reading goes on behind it. -/
theorem decodeFrom_encode (b : Bytes) (offset : Nat) (rest : Bytes) :
    decodeFrom offset (encode b ++ rest) =
      (decodeFrom (offset + (encode b).length) rest).map (b ++ ·) := by
  have pos : 0 < lineCapacity := by decide
  induction b using Bytes.chunks_induction pos generalizing offset with
  | nil =>
    rw [encode, Bytes.chunks_nil]
    show decodeFrom offset rest = (decodeFrom offset rest).map id
    cases decodeFrom offset rest <;> rfl
  | step b ne ih =>
    have ne' : b.take lineCapacity ≠ [] := by
      rw [ne_eq, List.take_eq_nil_iff]
      exact fun h => h.elim (Nat.ne_of_gt pos) ne
    rw [encode_of_ne_nil ne, List.append_assoc, decodeFrom_encodeLine ne' (List.length_take_le ..),
      ih, List.length_append, Nat.add_assoc]
    cases decodeFrom (offset + ((encodeLine (b.take lineCapacity)).length +
        (encode (b.drop lineCapacity)).length)) rest with
    | error e => rfl
    | ok tail =>
      have whole : b.take lineCapacity ++ (b.drop lineCapacity ++ tail) = b ++ tail := by
        rw [← List.append_assoc, List.take_append_drop]
      exact congrArg Except.ok whole

/-- Where reading starts makes no difference but to the offset that is told. -/
theorem decodeFrom_add (k offset : Nat) (b : Bytes) :
    decodeFrom (k + offset) b =
      (decodeFrom offset b).mapError fun cut => ⟨k + cut.offset⟩ := by
  fun_induction decodeFrom offset b with
  | case1 offset => rw [decodeFrom]; rfl
  | case2 offset c rest control ih =>
    rw [decodeFrom, if_pos control, Nat.add_assoc, ih]
  | case3 offset c rest plain count none =>
    rw [decodeFrom, if_neg plain]
    exact if_pos none
  | case4 offset c rest plain count some groups bad =>
    rw [decodeFrom, if_neg plain]
    exact (if_neg some).trans (if_pos bad)
  | case5 offset c rest plain count some groups good ih =>
    rw [← Nat.add_assoc, ← Nat.add_assoc] at ih
    rw [decodeFrom, if_neg plain]
    refine (if_neg some).trans ((if_neg good).trans ?_)
    rw [ih]
    cases decodeFrom (offset + 1 + groupLength count) (rest.drop (groupLength count)) <;> rfl

theorem decode_encode (b : Bytes) : decode (encode b) = .ok b := by
  have whole := decodeFrom_encode b 0 []
  rw [List.append_nil, decodeFrom] at whole
  exact whole.trans (congrArg Except.ok (List.append_nil b))

/-- **Lines in front of others** read back as the bytes they were made from. Where the others
    are cut, the offset that is told counts from the start of all. -/
theorem decode_encode_append (b rest : Bytes) :
    decode (encode b ++ rest) = (match decode rest with
      | .ok data => .ok (b ++ data)
      | .error cut => .error ⟨cut.offset + (encode b).length⟩) ∧
    decode (encode b) = .ok b := by
  refine ⟨?_, decode_encode b⟩
  have moved := decodeFrom_add (encode b).length 0 rest
  rw [decode, decodeFrom_encode, Nat.zero_add, ← Nat.add_zero (encode b).length, moved, decode]
  cases decodeFrom 0 rest with
  | ok data => rfl
  | error cut => exact congrArg (fun o => Except.error (CutLine.mk o)) (Nat.add_comm ..)

end SerialIsp.Wire
