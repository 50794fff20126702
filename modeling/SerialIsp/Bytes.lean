/-!
# Byte strings

Everything that crosses the line, sits in target memory or lies in a file is a list of
bytes. This module names that type and holds the operations the protocol layers share:
text as bytes, little-endian words, zero padding and cutting into pieces.
-/

namespace SerialIsp

/-- A finite sequence of octets, first one first. -/
abbrev Bytes := List UInt8

namespace Bytes

/-- Carriage return. -/
def cr : UInt8 := 13

/-- Line feed. -/
def lf : UInt8 := 10

/-- The bytes of a text, one per character. Every text the protocol sends is ASCII, where a
    character's code is its byte. -/
def ascii (s : String) : Bytes := s.toList.map fun c => c.toNat.toUInt8

/-- Extends `b` with zeros to `n` bytes; a longer `b` is kept whole. -/
def padTo (n : Nat) (b : Bytes) : Bytes := b ++ List.replicate (n - b.length) 0

/-- The smallest multiple of `unit` that is not below `n`. -/
def roundUp (unit n : Nat) : Nat := (n + unit - 1) / unit * unit

/-- The little-endian word at `offset`; bytes past the end read as zero. -/
def wordAt (b : Bytes) (offset : Nat) : UInt32 :=
  let byte (i : Nat) : UInt32 := (b.getD (offset + i) 0).toUInt32
  byte 0 ||| (byte 1 <<< 8) ||| (byte 2 <<< 16) ||| (byte 3 <<< 24)

/-- A word as four bytes, least significant first. -/
def ofWord (w : UInt32) : Bytes :=
  [w.toUInt8, (w >>> 8).toUInt8, (w >>> 16).toUInt8, (w >>> 24).toUInt8]

/-- Replaces the bytes from `offset` on by `patch`, which must lie inside `b`. -/
def overwrite (b : Bytes) (offset : Nat) (patch : Bytes) : Bytes :=
  b.take offset ++ patch ++ b.drop (offset + patch.length)

/-- Cuts `b` into pieces of `size` bytes, the last one possibly shorter. A `size` of zero
    gives no piece. -/
def chunks (size : Nat) (b : Bytes) : List Bytes :=
  if _h : b = [] ∨ size = 0 then []
  else b.take size :: chunks size (b.drop size)
termination_by b.length
decreasing_by
  rw [not_or] at _h
  have : 0 < b.length := List.length_pos_iff.mpr _h.1
  simp only [List.length_drop]
  omega

/-- The first offset at which two byte strings differ within their common length. -/
def firstDifference (a b : Bytes) : Option Nat :=
  (a.zip b).findIdx? fun pair => pair.1 != pair.2

end Bytes
end SerialIsp
