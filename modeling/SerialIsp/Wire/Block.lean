import SerialIsp.Wire.Line
import SerialIsp.Text.Radix

/-!
# Checksummed blocks

A memory transfer is cut into blocks of at most twenty full lines. After the lines of a
block comes the sum of its bytes as a decimal line, and the receiver answers that it took
the block or wants it again.
-/

namespace SerialIsp.Wire

/-- The most lines in one block. -/
def linesPerBlock : Nat := 20

/-- The most bytes in one block. -/
def blockCapacity : Nat := lineCapacity * linesPerBlock

/-- The blocks that carry `count` bytes: as many lines as needed, twenty to a block. -/
def blockCount (count : Nat) : Nat :=
  ((count + (lineCapacity - 1)) / lineCapacity + (linesPerBlock - 1)) / linesPerBlock

/-- The sum of all bytes, modulo 2^32. -/
def byteSum (b : Bytes) : UInt32 := b.foldl (fun sum byte => sum + byte.toUInt32) 0

/-- The answer that a block was taken. -/
def blockTaken : Bytes := Bytes.ascii "OK\r\n"

/-- The answer that a block is wanted again. -/
def blockWanted : Bytes := Bytes.ascii "RESEND\r\n"

/-- A block as it is sent: its lines, then its byte sum as a decimal line. -/
def blockFrame (b : Bytes) : Bytes :=
  encode b ++ Bytes.ascii (Text.decimal (byteSum b).toNat ++ "\r\n")

/-- How often a corrupt block is asked for, or sent, again before the transfer is given
    up. -/
def maxResends : Nat := 3

end SerialIsp.Wire
