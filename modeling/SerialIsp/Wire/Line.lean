import SerialIsp.Bytes

/-!
# Printable lines

Memory contents travel as lines of printable characters. A line opens with a character for
its byte count, carries each group of three bytes as four characters of six bits, and ends
with a carriage return and a line feed. A six-bit value `v` is sent as the character
`v + 32`, except that zero is sent as the grave accent, so that no line holds a space.

`encode` writes any byte string as such lines, `encodedLength` is the length of what it
writes, and `decode` reads lines back, skipping control characters between them.
-/

namespace SerialIsp.Wire

/-- The most bytes one line carries. -/
def lineCapacity : Nat := 45

/-- The character that stands for the low six bits of `v`. -/
def sixBitChar (v : UInt8) : UInt8 :=
  let six := v &&& 0x3F
  if six = 0 then 96 else six + 32

/-- The six bits a character stands for. -/
def sixBits (c : UInt8) : UInt8 := (c - 32) &&& 0x3F

/-- One to three bytes as four characters; a missing byte counts as zero. -/
def encodeGroup (a b c : UInt8) : Bytes :=
  [sixBitChar (a >>> 2), sixBitChar ((a <<< 4) ||| (b >>> 4)),
    sixBitChar ((b <<< 2) ||| (c >>> 6)), sixBitChar c]

/-- The groups of a line's bytes, the last one filled up with zeros. -/
def encodeGroups : Bytes → Bytes
  | [] => []
  | [a] => encodeGroup a 0 0
  | [a, b] => encodeGroup a b 0
  | a :: b :: c :: rest => encodeGroup a b c ++ encodeGroups rest

/-- One line of at most `lineCapacity` bytes. -/
def encodeLine (b : Bytes) : Bytes :=
  sixBitChar b.length.toUInt8 :: encodeGroups b ++ [Bytes.cr, Bytes.lf]

/-- A byte string as lines, all but the last of them full. -/
def encode (b : Bytes) : Bytes := (Bytes.chunks lineCapacity b).flatMap encodeLine

/-- The length of `encode b` for a `b` of `n` bytes. Full lines hold whole groups, so only
    the last group of all can be a partial one. -/
def encodedLength (n : Nat) : Nat := (n + 2) / 3 * 4 + 3 * ((n + (lineCapacity - 1)) / lineCapacity)

/-- `encodedLength` as a 64-bit word. -/
def encodedSize (n : UInt64) : UInt64 := (encodedLength n.toNat).toUInt64

/-- The characters that carry `n` bytes of one line. -/
def groupLength (n : Nat) : Nat := (n + 2) / 3 * 4

/-- Four characters back to three bytes, group after group; characters left over at the end
    are dropped. -/
def decodeGroups : Bytes → Bytes
  | a :: b :: c :: d :: rest =>
    let a := sixBits a
    let b := sixBits b
    let c := sixBits c
    let d := sixBits d
    ((a <<< 2) ||| (b >>> 4)) :: ((b <<< 4) ||| (c >>> 2)) :: ((c <<< 6) ||| d) ::
      decodeGroups rest
  | _ => []

/-- A line that ends before its byte count is met, at the offset of its count character. -/
structure CutLine where
  offset : Nat
  deriving DecidableEq, Repr

/-- Whether a byte is a control character, which may stand between lines but not inside
    one. -/
def isControl (c : UInt8) : Bool := c < 32

/-- Reads lines that start `offset` bytes into the whole text. -/
def decodeFrom (offset : Nat) : Bytes → Except CutLine Bytes
  | [] => .ok []
  | c :: rest =>
    if isControl c then decodeFrom (offset + 1) rest
    else
      let count := (sixBits c).toNat
      if count = 0 then .ok []
      else
        let groups := rest.take (groupLength count)
        if groups.length < groupLength count || groups.any isControl then .error ⟨offset⟩
        else do
          let tail ← decodeFrom (offset + 1 + groupLength count) (rest.drop (groupLength count))
          return (decodeGroups groups).take count ++ tail
termination_by b => b.length
decreasing_by
  · simp
  · simp only [List.length_drop, List.length_cons]
    omega

/-- Reads lines back to the bytes they carry. Control characters before, between and after
    lines are skipped, and a line that counts no bytes ends the text early. -/
def decode (b : Bytes) : Except CutLine Bytes := decodeFrom 0 b

end SerialIsp.Wire
