import SerialIsp.Wire.Block
import SerialIsp.Text.Utf8
import SerialIsp.Proofs.Text.Blanks

/-!
# Decimal numbers read back

A number is sent in decimal digits, and every reader of the library gives it back: digits have
no blanks around them, are ASCII, and stand for the number they were made from as long as it
is below the limit.
-/

namespace SerialIsp.Text

/-! ## Digits -/

theorem digits_of_lt {n : Nat} (h : n < 10) : digits 10 n = [Nat.digitChar n] := by
  rw [digits]
  exact dif_pos (.inr h)

theorem digits_of_le {n : Nat} (h : 10 ≤ n) :
    digits 10 n = digits 10 (n / 10) ++ [Nat.digitChar (n % 10)] := by
  rw [digits]
  exact dif_neg (by omega)

theorem digits_ne_nil (n : Nat) : digits 10 n ≠ [] := by
  by_cases h : n < 10
  · simp [digits_of_lt h]
  · simp [digits_of_le (Nat.not_lt.mp h)]

/-- What holds of the ten digits holds of all that stand in a number. -/
theorem forall_mem_digits {motive : Char → Prop} (h : ∀ d < 10, motive (Nat.digitChar d))
    (n : Nat) : ∀ c ∈ digits 10 n, motive c := by
  induction n using Nat.strongRecOn with
  | ind n ih =>
    intro c mem
    by_cases small : n < 10
    · rw [digits_of_lt small] at mem
      rw [List.mem_singleton.mp mem]
      exact h n small
    · rw [digits_of_le (Nat.not_lt.mp small)] at mem
      rcases List.mem_append.mp mem with before | last
      · exact ih (n / 10) (by omega) c before
      · rw [List.mem_singleton.mp last]
        exact h _ (Nat.mod_lt _ (by decide))

theorem length_digits_le {n k : Nat} (pos : 0 < k) (h : n < Nat.pow 10 k) :
    (digits 10 n).length ≤ k := by
  induction k generalizing n with
  | zero => exact absurd pos (Nat.lt_irrefl 0)
  | succ k ih =>
    by_cases small : n < 10
    · rw [digits_of_lt small]
      exact pos
    · have h : n < Nat.pow 10 k * 10 := h
      have some : 0 < k := Nat.pos_of_ne_zero fun none => by
        subst none
        exact small h
      have rest := ih some (n := n / 10) (by omega)
      rw [digits_of_le (Nat.not_lt.mp small), List.length_append]
      exact Nat.succ_le_succ rest

theorem lt_length_digits {n k : Nat} (h : Nat.pow 10 k ≤ n) : k < (digits 10 n).length := by
  induction k generalizing n with
  | zero => exact List.length_pos_iff.mpr (digits_ne_nil n)
  | succ k ih =>
    have h : Nat.pow 10 k * 10 ≤ n := h
    have some : 0 < Nat.pow 10 k := Nat.pow_pos (by decide)
    rw [digits_of_le (by omega), List.length_append]
    exact Nat.succ_lt_succ (ih (n := n / 10) (by omega))

theorem readDigits_append (base limit acc : Nat) (cs ds : List Char) :
    readDigits base limit acc (cs ++ ds) =
      (readDigits base limit acc cs).bind fun n => readDigits base limit n ds := by
  induction cs generalizing acc with
  | nil => rfl
  | cons c cs ih =>
    rw [List.cons_append, readDigits, readDigits]
    split
    · rfl
    · split
      · exact ih _
      · rfl

theorem readDigits_digits {limit n : Nat} (h : n < limit) :
    readDigits 10 limit 0 (digits 10 n) = .ok n := by
  have one {d : Nat} (acc : Nat) (hd : d < 10) (hlimit : acc * 10 + d < limit) :
      readDigits 10 limit acc [Nat.digitChar d] = .ok (acc * 10 + d) := by
    have values : ∀ d < 10, digitValue? 10 (Nat.digitChar d) = some d := by decide
    rw [readDigits, values d hd]
    exact if_pos hlimit
  induction n using Nat.strongRecOn with
  | ind n ih =>
    by_cases small : n < 10
    · rw [digits_of_lt small, one 0 small (by omega), Nat.zero_mul, Nat.zero_add]
    · rw [digits_of_le (Nat.not_lt.mp small), readDigits_append, ih (n / 10) (by omega) (by omega)]
      show readDigits 10 limit (n / 10) _ = _
      rw [one (n / 10) (Nat.mod_lt _ (by decide)) (by omega)]
      exact congrArg Except.ok (by omega)

/-- A number that does not open with a sign is its digits. -/
theorem readNumber_of_unsigned {base limit : Nat} {cs : List Char} (some : cs ≠ [])
    (unsigned : ∀ c ∈ cs, c ≠ '+') : readNumber base limit cs = readDigits base limit 0 cs := by
  unfold readNumber
  split
  · exact absurd rfl some
  · exact absurd rfl (unsigned '+' List.mem_cons_self)
  · exact absurd rfl (unsigned '+' List.mem_cons_self)
  · rfl

/-- **A number reads back.** -/
theorem readNumber_digits {limit n : Nat} (h : n < limit) :
    readNumber 10 limit (digits 10 n) = .ok n := by
  rw [readNumber_of_unsigned (digits_ne_nil n) (forall_mem_digits (by decide) n),
    readDigits_digits h]

/-! ## Digits in a text -/

theorem trim_digits (n : Nat) : trim (digits 10 n) = digits 10 n :=
  trim_eq_self (forall_mem_digits (by decide) n)

theorem lossyChars_eq_map {b : Bytes} (h : ∀ c ∈ b, c.toNat < 0x80) :
    Utf8.lossyChars b = b.map fun c => Char.ofNat c.toNat := by
  unfold Utf8.lossyChars
  induction b with
  | nil => rfl
  | cons c rest ih =>
    have whole : Utf8.Step.fresh c = ⟨[some (Char.ofNat c.toNat)], none⟩ := by
      unfold Utf8.Step.fresh Utf8.lead
      simp only [h c List.mem_cons_self, ↓reduceIte]
    rw [Utf8.scan]
    simp only [whole, List.cons_append, List.nil_append, List.map_cons]
    exact congrArg _ (ih fun d mem => h d (List.mem_cons_of_mem _ mem))

theorem toNat_toUInt8_of_lt {c : Char} (h : c.toNat < 0x80) : c.toNat.toUInt8.toNat = c.toNat :=
  Nat.mod_eq_of_lt (Nat.lt_trans h (by decide))

theorem lossy_ascii {s : String} (h : ∀ c ∈ s.toList, c.toNat < 0x80) :
    Utf8.lossy (Bytes.ascii s) = s := by
  have bytes : ∀ b ∈ Bytes.ascii s, b.toNat < 0x80 := by
    intro b mem
    obtain ⟨c, hc, rfl⟩ := List.mem_map.mp mem
    rw [toNat_toUInt8_of_lt (h c hc)]
    exact h c hc
  have chars : (Bytes.ascii s).map (fun b => Char.ofNat b.toNat) = s.toList := by
    rw [Bytes.ascii, List.map_map]
    refine (List.map_congr_left fun c mem => ?_).trans (List.map_id _)
    show Char.ofNat c.toNat.toUInt8.toNat = c
    rw [toNat_toUInt8_of_lt (h c mem), Char.ofNat_toNat]
  rw [Utf8.lossy, lossyChars_eq_map bytes, chars, String.ofList_toList]

theorem toList_decimal (n : Nat) : (decimal n).toList = digits 10 n := String.toList_ofList

end SerialIsp.Text
