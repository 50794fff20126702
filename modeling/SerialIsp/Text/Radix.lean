/-!
# Numbers as text

Natural numbers in decimal and hexadecimal, and back. Reading follows one rule for every
base: an optional plus sign, then at least one digit, and a value below the limit. The
first character that breaks the rule decides which fault is reported.
-/

namespace SerialIsp.Text

/-- The digits of `n` in `base`, most significant first, without leading zeros. A base
    below two has no such digits and yields the single digit character of `n`. -/
def digits (base n : Nat) : List Char :=
  if _h : base ≤ 1 ∨ n < base then [Nat.digitChar n]
  else digits base (n / base) ++ [Nat.digitChar (n % base)]
termination_by n
decreasing_by
  rw [not_or] at _h
  exact Nat.div_lt_self (by omega) (by omega)

/-- Decimal digits. -/
def decimal (n : Nat) : String := String.ofList (digits 10 n)

/-- Lower-case hexadecimal digits, zero-filled on the left to `width`. -/
def hexFilled (width n : Nat) : String :=
  let ds := digits 16 n
  String.ofList (List.replicate (width - ds.length) '0' ++ ds)

/-- Hexadecimal with its marker and no filling, as in `0x40`. -/
def hexMarked (n : Nat) : String := "0x" ++ hexFilled 0 n

/-- Hexadecimal with its marker and at least eight digits, as in `0x00000040`. -/
def hexWord (n : Nat) : String := "0x" ++ hexFilled 8 n

/-- Why a text is not a number. -/
inductive NumberFault where
  /-- There is no digit at all. -/
  | empty
  /-- A character is not a digit of the base, or a sign stands alone. -/
  | invalidDigit
  /-- The value does not fit. -/
  | tooLarge
  deriving DecidableEq, Repr

/-- The fault in words. -/
def NumberFault.message : NumberFault → String
  | .empty => "cannot parse integer from empty string"
  | .invalidDigit => "invalid digit found in string"
  | .tooLarge => "number too large to fit in target type"

/-- The value of a digit character in `base`, letters of either case standing for ten and
    above. -/
def digitValue? (base : Nat) (c : Char) : Option Nat :=
  let v :=
    if '0' ≤ c ∧ c ≤ '9' then c.toNat - '0'.toNat
    else if 'a' ≤ c ∧ c ≤ 'z' then c.toNat - 'a'.toNat + 10
    else if 'A' ≤ c ∧ c ≤ 'Z' then c.toNat - 'A'.toNat + 10
    else base
  if v < base then some v else none

/-- Reads digits after the value `acc` of those already read; the value stays below
    `limit`. -/
def readDigits (base limit : Nat) (acc : Nat) : List Char → Except NumberFault Nat
  | [] => .ok acc
  | c :: rest =>
    match digitValue? base c with
    | none => .error .invalidDigit
    | some d =>
      if acc * base + d < limit then readDigits base limit (acc * base + d) rest
      else .error .tooLarge

/-- Reads an unsigned number below `limit`: an optional plus sign, then digits of
    `base`. -/
def readNumber (base limit : Nat) : List Char → Except NumberFault Nat
  | [] => .error .empty
  | ['+'] => .error .invalidDigit
  | '+' :: c :: rest => readDigits base limit 0 (c :: rest)
  | c :: rest => readDigits base limit 0 (c :: rest)

/-- One more than the largest 32-bit word. -/
def limit32 : Nat := UInt32.size

/-- One more than the largest 64-bit word. -/
def limit64 : Nat := UInt64.size

end SerialIsp.Text
