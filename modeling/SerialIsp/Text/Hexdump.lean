import SerialIsp.Bytes
import SerialIsp.Text.Radix

/-!
# Hexdumps

Bytes laid out for reading, sixteen to a row: the address of the row's first byte, the
bytes in hexadecimal with a gap after the eighth, and the same bytes as characters.
-/

namespace SerialIsp.Text

/-- Bytes shown on one row. -/
def rowLength : Nat := 16

/-- A byte as it stands in the character column: itself when printable, else a dot. -/
def dumpChar (b : UInt8) : Char := if 0x20 ≤ b ∧ b ≤ 0x7E then Char.ofNat b.toNat else '.'

/-- One hexadecimal column: a blank and two digits, or three blanks where the row has no
    byte. The ninth column is set off by one more blank. -/
def dumpColumn (row : Bytes) (column : Nat) : String :=
  let gap := if column = 8 then " " else ""
  match row[column]? with
  | some b => gap ++ " " ++ hexFilled 2 b.toNat
  | none => gap ++ "   "

/-- One row, line end included. -/
def dumpRow (address : UInt32) (row : Bytes) : String :=
  hexFilled 8 address.toNat ++ " " ++
    String.join ((List.range rowLength).map (dumpColumn row)) ++
    "  |" ++ String.ofList (row.map dumpChar) ++ "|\n"

/-- The rows of a dump, the first of them at `address`; addresses wrap at 2^32. -/
def dumpRows (address : UInt32) : List Bytes → List String
  | [] => []
  | row :: rest => dumpRow address row :: dumpRows (address + rowLength.toUInt32) rest

/-- The hexdump of bytes that lie from `base` on. -/
def hexdump (b : Bytes) (base : UInt32) : String :=
  String.join (dumpRows base (Bytes.chunks rowLength b))

end SerialIsp.Text
