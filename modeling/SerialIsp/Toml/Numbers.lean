import SerialIsp.Text.Radix
import SerialIsp.Toml.Reader

/-!
# Numbers, dates and times

Integers fit in 64 bits with sign; underscores may stand between digits. A number with a
fraction or an exponent has to be small enough for double precision, and is otherwise kept
as it was written, as are dates and times, which have to exist in the calendar.
-/

namespace SerialIsp.Toml

open Reader

/-- A decimal digit. -/
def isDigit (c : Char) : Bool := '0' ≤ c && c ≤ '9'

/-- Digits in the sense of `p`, with single underscores between them; only the digits. -/
def digitRun (p : Char → Bool) : Reader (List Char) := do
  let first ← takeSome p
  let groups ← many do
    char '_'
    takeSome p
  return first ++ groups.flatten

/-- A sign, if there is one; whether it is a minus. -/
def sign : Reader Bool := do
  if ← skip '-' then return true
  let _ ← skip '+'
  return false

/-- The digits of a number before its point: a lone zero, or digits that start with none. -/
def wholeDigits : Reader (List Char) := do
  if ← skip '0' then return ['0'] else digitRun isDigit

/-- The value of digits in a base. -/
def digitsValue (base : Nat) (digits : List Char) : Nat :=
  digits.foldl (fun acc c => acc * base + (Text.digitValue? base c).getD 0) 0

/-! ## Integers -/

/-- The integers of 64 bits. -/
def inRange (n : Int) : Bool := Int64.minValue.toInt ≤ n && n ≤ Int64.maxValue.toInt

/-- An integer after the marker of its base. -/
def markedInteger (base : Nat) (marker : String) : Reader Int := do
  word marker
  let digits ← digitRun fun c => (Text.digitValue? base c).isSome
  let n : Int := digitsValue base digits
  if inRange n then return n else failure

/-- A decimal integer. -/
def decimalInteger : Reader Int := do
  let negative ← sign
  let n : Int := digitsValue 10 (← wholeDigits)
  let n := if negative then -n else n
  if inRange n then return n else failure

/-- An integer. -/
def integer : Reader Int :=
  markedInteger 16 "0x" <|> markedInteger 8 "0o" <|> markedInteger 2 "0b" <|> decimalInteger

/-! ## Numbers with a fraction or an exponent -/

/-- The exponent of a number, with its sign. -/
def exponent : Reader Int := do
  let _ ← satisfy fun c => c = 'e' || c = 'E'
  let negative ← sign
  let n : Int := digitsValue 10 (← digitRun isDigit)
  return if negative then -n else n

/-- The digits of a number after its point. -/
def fraction : Reader (List Char) := do
  char '.'
  digitRun isDigit

/-- The smallest number that double precision rounds up to infinity: half a unit in the
    last place above the largest finite one. -/
def overflowBound : Nat := 1 <<< 1024 - 1 <<< 970

/-- Whether `mantissa * 10 ^ exponent` is below `overflowBound`. Exponents are compared by
    the number of digits first, so that no power is computed that could not matter. -/
def fitsDouble (mantissa : Nat) (exponent : Int) : Bool :=
  if mantissa = 0 then true
  else
    let size : Int := (Text.digits 10 mantissa).length + exponent
    if size < 300 then true
    else if size > 320 then false
    else if 0 ≤ exponent then mantissa * Nat.pow 10 exponent.toNat < overflowBound
    else mantissa < overflowBound * Nat.pow 10 (-exponent).toNat

/-- A number with a fraction or an exponent. A negative one of any size is taken. -/
def decimalFloat : Reader Unit := do
  let negative ← sign
  let whole ← wholeDigits
  let fractionDigits ← optional? fraction
  let power ← optional? exponent
  if fractionDigits.isNone ∧ power.isNone then failure
  let after := fractionDigits.getD []
  let mantissa := digitsValue 10 (whole ++ after)
  if negative || fitsDouble mantissa (power.getD 0 - after.length) then return () else failure

/-- Infinity, or no number at all. -/
def specialFloat : Reader Unit := do
  let _ ← sign
  word "inf" <|> word "nan"

/-- A number that is no integer. -/
def float : Reader Unit := decimalFloat <|> specialFloat

/-! ## Dates and times -/

/-- A number of exactly `n` digits, from `low` to `high`. -/
def fixedNumber (n low high : Nat) : Reader Nat := fun cs =>
  let digits := cs.take n
  let value := digitsValue 10 digits
  if digits.length = n ∧ digits.all isDigit ∧ low ≤ value ∧ value ≤ high then
    some (value, cs.drop n)
  else none

/-- Whether a year has a leap day. -/
def isLeapYear (year : Nat) : Bool := year % 4 = 0 && (year % 100 ≠ 0 || year % 400 = 0)

/-- The days of a month. -/
def daysIn (year month : Nat) : Nat :=
  if month = 2 then if isLeapYear year then 29 else 28
  else if [4, 6, 9, 11].contains month then 30 else 31

/-- A day of the calendar. -/
def date : Reader Unit := do
  let year ← fixedNumber 4 0 9999
  char '-'
  let month ← fixedNumber 2 1 12
  char '-'
  let _ ← fixedNumber 2 1 (daysIn year month)

/-- A time of the day, in which a minute may have a leap second. -/
def time : Reader Unit := do
  let _ ← fixedNumber 2 0 23
  char ':'
  let _ ← fixedNumber 2 0 59
  char ':'
  let _ ← fixedNumber 2 0 60
  let _ ← optional? do
    char '.'
    takeSome isDigit

/-- The distance of a time from universal time. -/
def timeOffset : Reader Unit := do
  let c ← satisfy fun c => c = 'Z' || c = 'z' || c = '+' || c = '-'
  if c = '+' || c = '-' then
    let _ ← fixedNumber 2 0 23
    char ':'
    let _ ← fixedNumber 2 0 59

/-- The time that may follow a date. -/
def dayTime : Reader Unit := do
  let _ ← satisfy fun c => c = 'T' || c = 't' || c = ' '
  time
  let _ ← optional? timeOffset

/-- A date, a time, or both. -/
def dateTime : Reader Unit :=
  (do
    date
    let _ ← optional? dayTime) <|> time

end SerialIsp.Toml
