import SerialIsp.Text.Blank
import SerialIsp.Text.Radix

/-!
# Integer literals

Numbers as people write them: decimal, or with a `0x`, `0o` or `0b` marker, with
underscores between the digits and blanks around the whole. An underscore may not come
first, but it may follow the marker.
-/

namespace SerialIsp.Text

/-- A way to read a text as a number below a limit. -/
abbrev LiteralReader := Nat → List Char → Except NumberFault Nat

/-- Drops every underscore. -/
def dropUnderscores (cs : List Char) : List Char := cs.filter (· != '_')

/-- Reads a literal whose value is below `limit`. -/
def readLiteral (limit : Nat) (cs : List Char) : Except NumberFault Nat :=
  match trim cs with
  | '_' :: _ => .error .invalidDigit
  | '0' :: 'x' :: rest => readNumber 16 limit (dropUnderscores rest)
  | '0' :: 'b' :: rest => readNumber 2 limit (dropUnderscores rest)
  | '0' :: 'o' :: rest => readNumber 8 limit (dropUnderscores rest)
  | rest => readNumber 10 limit (dropUnderscores rest)

/-- Reads a literal as a 32-bit word. -/
def readWord (s : String) : Except NumberFault UInt32 :=
  (readLiteral limit32 s.toList).map Nat.toUInt32

end SerialIsp.Text
