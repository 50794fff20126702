import SerialIsp.Text.Literal
import SerialIsp.Proofs.Wire.Numbers

/-!
# Literals read as their value

`Literal` is what people write for a number: decimal digits, or digits behind a marker for their
base, with as many leading zeros as they like and letters of either case. It knows nothing of how
literals are read. A literal is read as the number that it stands for, and refused where that
number is not below the limit (`readLiteral_of_literal`).
-/

namespace SerialIsp.Text

/-! ## What literals are -/

/-- A digit in a base, and its value. -/
def IsDigit (base : Nat) (c : Char) (d : Nat) : Prop :=
  d < base ∧ (c = Nat.digitChar d ∨ c = (Nat.digitChar d).toUpper)

/-- Some digits, and the number they stand for. -/
inductive Numeral (base : Nat) : List Char → Nat → Prop
  | one {c : Char} {d : Nat} (digit : IsDigit base c d) : Numeral base [c] d
  | concat {cs : List Char} {n : Nat} {c : Char} {d : Nat} (front : Numeral base cs n)
      (digit : IsDigit base c d) : Numeral base (cs ++ [c]) (n * base + d)

/-- A literal, and the number it stands for. -/
inductive Literal : List Char → Nat → Prop
  | decimal {cs : List Char} {n : Nat} (digits : Numeral 10 cs n) : Literal cs n
  | hexadecimal {cs : List Char} {n : Nat} (digits : Numeral 16 cs n) :
      Literal ('0' :: 'x' :: cs) n
  | octal {cs : List Char} {n : Nat} (digits : Numeral 8 cs n) : Literal ('0' :: 'o' :: cs) n
  | binary {cs : List Char} {n : Nat} (digits : Numeral 2 cs n) : Literal ('0' :: 'b' :: cs) n

/-- The bases that literals are written in. -/
def bases : List Nat := [2, 8, 10, 16]

/-! ## Digits and numerals -/

theorem digitValue?_of_isDigit {base d : Nat} {c : Char} (known : base ∈ bases)
    (digit : IsDigit base c d) : digitValue? base c = some d := by
  have all : ∀ base ∈ bases, ∀ d < base, digitValue? base (Nat.digitChar d) = some d ∧
      digitValue? base (Nat.digitChar d).toUpper = some d := by decide
  rcases digit with ⟨small, rfl | rfl⟩
  · exact (all base known d small).1
  · exact (all base known d small).2

/-- What holds of the digits of a base, in either case, holds of all that stand in a numeral. -/
theorem Numeral.forall_mem {base n : Nat} {cs : List Char} {motive : Char → Prop}
    (h : ∀ d < base, motive (Nat.digitChar d) ∧ motive (Nat.digitChar d).toUpper)
    (numeral : Numeral base cs n) : ∀ c ∈ cs, motive c := by
  have one {c : Char} {d : Nat} (digit : IsDigit base c d) : motive c := by
    rcases digit with ⟨small, rfl | rfl⟩
    · exact (h d small).1
    · exact (h d small).2
  induction numeral with
  | one digit =>
    intro c mem
    rw [List.mem_singleton.mp mem]
    exact one digit
  | concat front digit ih =>
    intro c mem
    rcases List.mem_append.mp mem with before | last
    · exact ih c before
    · rw [List.mem_singleton.mp last]
      exact one digit

theorem Numeral.ne_nil {base n : Nat} {cs : List Char} (numeral : Numeral base cs n) :
    cs ≠ [] := by
  cases numeral with
  | one => exact List.cons_ne_nil _ _
  | concat => exact List.append_ne_nil_of_right_ne_nil _ (List.cons_ne_nil _ _)

theorem readDigits_of_numeral {base n : Nat} {cs : List Char} (known : base ∈ bases)
    (numeral : Numeral base cs n) (limit : Nat) :
    readDigits base limit 0 cs = if n < limit then .ok n else .error .tooLarge := by
  have one {c : Char} {d : Nat} (digit : IsDigit base c d) (acc : Nat) :
      readDigits base limit acc [c] =
        if acc * base + d < limit then .ok (acc * base + d) else .error .tooLarge := by
    rw [readDigits, digitValue?_of_isDigit known digit]
    rfl
  induction numeral with
  | one digit => rw [one digit, Nat.zero_mul, Nat.zero_add]
  | @concat cs n c d front digit ih =>
    rw [readDigits_append, ih]
    by_cases small : n < limit
    · rw [if_pos small]
      exact one digit n
    · -- what is too large does not get smaller
      have pos : 0 < base := Nat.zero_lt_of_lt digit.1
      have grows : n ≤ n * base := Nat.le_mul_of_pos_right n pos
      rw [if_neg small, if_neg (by omega)]
      rfl

theorem readNumber_of_numeral {base n : Nat} {cs : List Char} (known : base ∈ bases)
    (numeral : Numeral base cs n) (limit : Nat) :
    readNumber base limit cs = if n < limit then .ok n else .error .tooLarge := by
  have all : ∀ base ∈ bases, ∀ d < base, Nat.digitChar d ≠ '+' ∧
      (Nat.digitChar d).toUpper ≠ '+' := by decide
  rw [readNumber_of_unsigned numeral.ne_nil (numeral.forall_mem (all base known)),
    readDigits_of_numeral known numeral]

theorem dropUnderscores_numeral {base n : Nat} {cs : List Char} (known : base ∈ bases)
    (numeral : Numeral base cs n) : dropUnderscores cs = cs := by
  have all : ∀ base ∈ bases, ∀ d < base, (Nat.digitChar d != '_') = true ∧
      ((Nat.digitChar d).toUpper != '_') = true := by decide
  exact List.filter_eq_self.mpr (numeral.forall_mem (all base known))

theorem numeral_digits (n : Nat) : Numeral 10 (digits 10 n) n := by
  induction n using Nat.strongRecOn with
  | ind n ih =>
    by_cases small : n < 10
    · rw [digits_of_lt small]
      exact .one ⟨small, .inl rfl⟩
    · have many : 10 ≤ n := Nat.le_of_not_lt small
      have split : n / 10 * 10 + n % 10 = n := by omega
      have front := ih (n / 10) (by omega)
      have whole : Numeral 10 (digits 10 (n / 10) ++ [Nat.digitChar (n % 10)])
          (n / 10 * 10 + n % 10) := .concat front ⟨Nat.mod_lt n (by decide), .inl rfl⟩
      rwa [← digits_of_le many, split] at whole

/-! ## Literals -/

/-- What holds of the letters of the markers and of all digits holds of a literal. -/
theorem Literal.forall_mem {n : Nat} {cs : List Char} {motive : Char → Prop}
    (digits : ∀ d < 16, motive (Nat.digitChar d) ∧ motive (Nat.digitChar d).toUpper)
    (marks : motive 'x' ∧ motive 'o' ∧ motive 'b') (literal : Literal cs n) :
    ∀ c ∈ cs, motive c := by
  have body {base : Nat} {cs : List Char} (small : base ≤ 16) (numeral : Numeral base cs n) :
      ∀ c ∈ cs, motive c :=
    numeral.forall_mem fun d lt => digits d (Nat.lt_of_lt_of_le lt small)
  have zero : motive '0' := (digits 0 (by decide)).1
  have marked {base : Nat} {mark : Char} {cs : List Char} (small : base ≤ 16)
      (known : motive mark) (numeral : Numeral base cs n) :
      ∀ c ∈ '0' :: mark :: cs, motive c :=
    List.forall_mem_cons.mpr ⟨zero, List.forall_mem_cons.mpr ⟨known, body small numeral⟩⟩
  cases literal with
  | decimal numeral => exact body (by decide) numeral
  | hexadecimal numeral => exact marked (by decide) marks.1 numeral
  | octal numeral => exact marked (by decide) marks.2.1 numeral
  | binary numeral => exact marked (by decide) marks.2.2 numeral

theorem Literal.visible {n : Nat} {cs : List Char} (literal : Literal cs n) :
    ∀ c ∈ cs, isBlank c = false :=
  literal.forall_mem (by decide) (by decide)

theorem Literal.ne_nil {n : Nat} {cs : List Char} (literal : Literal cs n) : cs ≠ [] := by
  cases literal with
  | decimal digits => exact digits.ne_nil
  | hexadecimal => exact List.cons_ne_nil _ _
  | octal => exact List.cons_ne_nil _ _
  | binary => exact List.cons_ne_nil _ _

/-- **A literal is read as its value**, if that is below the limit. -/
theorem readLiteral_of_literal {n : Nat} {cs : List Char} (literal : Literal cs n) (limit : Nat) :
    readLiteral limit cs = if n < limit then .ok n else .error .tooLarge := by
  have bare : trim cs = cs := trim_eq_self literal.visible
  have read {base : Nat} {cs : List Char} (known : base ∈ bases) (digits : Numeral base cs n) :
      readNumber base limit (dropUnderscores cs) =
        if n < limit then .ok n else .error .tooLarge := by
    rw [dropUnderscores_numeral known digits, readNumber_of_numeral known digits]
  unfold readLiteral
  rw [bare]
  cases literal with
  | decimal digits =>
    -- no decimal digit is taken for a marker
    have plain := digits.forall_mem (motive := fun c => c ≠ '_' ∧ c ≠ 'x' ∧ c ≠ 'b' ∧ c ≠ 'o')
      (by decide)
    split
    · exact absurd rfl (plain '_' (by simp)).1
    · exact absurd rfl (plain 'x' (by simp)).2.1
    · exact absurd rfl (plain 'b' (by simp)).2.2.1
    · exact absurd rfl (plain 'o' (by simp)).2.2.2
    · exact read (by decide) digits
  | hexadecimal digits => exact read (by decide) digits
  | octal digits => exact read (by decide) digits
  | binary digits => exact read (by decide) digits

/-! ## Limits -/

theorem readDigits_lt {base limit acc n : Nat} {cs : List Char} (small : acc < limit)
    (read : readDigits base limit acc cs = .ok n) : n < limit := by
  induction cs generalizing acc with
  | nil =>
    cases read
    exact small
  | cons c cs ih =>
    rw [readDigits] at read
    split at read
    · cases read
    · split at read
      · next below => exact ih below read
      · cases read

/-- What is read is below the limit. -/
theorem readLiteral_lt {limit n : Nat} {cs : List Char} (pos : 0 < limit)
    (read : readLiteral limit cs = .ok n) : n < limit := by
  have number {base : Nat} {cs : List Char} (read : readNumber base limit cs = .ok n) :
      n < limit := by
    unfold readNumber at read
    split at read
    · cases read
    · cases read
    · exact readDigits_lt pos read
    · exact readDigits_lt pos read
  unfold readLiteral at read
  split at read
  · cases read
  all_goals exact number read

/-- What those who have literals read rely on: a literal is read as its value where that is below
    the limit, and nothing is read that is not. -/
structure Literate (read : LiteralReader) : Prop where
  value : ∀ {number : List Char} {n : Nat}, Literal number n → ∀ {limit : Nat}, n < limit →
    read limit number = .ok n
  below : ∀ {limit : Nat} {text : List Char} {n : Nat}, 0 < limit → read limit text = .ok n →
    n < limit

theorem literate_readLiteral : Literate readLiteral where
  value literal limit small := by rw [readLiteral_of_literal literal, if_pos small]
  below pos read := readLiteral_lt pos read

end SerialIsp.Text
