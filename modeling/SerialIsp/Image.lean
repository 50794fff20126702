import SerialIsp.Failure

/-!
# Firmware images

A raw binary that starts with the vector table. The bootloader starts user code only when
the first eight words of the flash sum to zero, so the eighth is either computed here or has
to be right already. Images that enable code read protection, and so would lock the device,
are refused.
-/

namespace SerialIsp

/-- What is done about the eighth vector. -/
inductive UserCode where
  /-- Write the word that makes the vectors sum to zero. -/
  | compute
  /-- Require that word to be there. -/
  | verify
  deriving DecidableEq, Repr, Inhabited

/-- Vectors whose sum the eighth one balances. -/
def summedVectors : Nat := 7

/-- Offset of the balancing vector. -/
def sumOffset : Nat := summedVectors * 4

/-- Length of the vectors that have to sum to zero. -/
def vectorTableLength : Nat := (summedVectors + 1) * 4

/-- The word that makes a sum of words zero modulo 2^32. -/
def balancingWord (words : List UInt32) : UInt32 := words.foldl (· - ·) 0

/-- Offset of the code read protection word. -/
def protectionOffset : Nat := 0x2FC

/-- The words that enable code read protection, from disabling the bootloader's pin to
    locking the device for good. -/
def protectionWords : List UInt32 := [0x4E697370, 0x12345678, 0x87654321, 0x43218765]

/-- A binary to be programmed. -/
structure Image where
  data : Bytes
  deriving DecidableEq, Repr, Inhabited

namespace Image

/-- The image of some bytes; no bytes are no image. -/
def ofBytes (b : Bytes) : Except Failure Image :=
  if b.isEmpty then .error .emptyImage else .ok ⟨b⟩

/-- The length in bytes. -/
def length (image : Image) : Nat := image.data.length

/-- The word the eighth vector has to be. -/
def expectedSum (image : Image) : UInt32 :=
  balancingWord ((List.range summedVectors).map fun i => image.data.wordAt (i * 4))

/-- The word the eighth vector is. -/
def storedSum (image : Image) : UInt32 := image.data.wordAt sumOffset

/-- The code read protection word. -/
def protection (image : Image) : UInt32 := image.data.wordAt protectionOffset

/-- The image with its eighth vector computed, extended to hold it where it is shorter. -/
def withSum (image : Image) : Image :=
  ⟨(image.data.padTo vectorTableLength).overwrite sumOffset (Bytes.ofWord image.expectedSum)⟩

/-- Refuses an image that enables code read protection. -/
def checkProtection (image : Image) : Except Failure Unit :=
  if protectionWords.contains image.protection then .error (.protectedImage image.protection)
  else .ok ()

/-- The image after the eighth vector was dealt with, or why it was not. -/
def settleSum (image : Image) : UserCode → Except Failure Image
  | .compute => .ok image.withSum
  | .verify =>
    if image.storedSum = image.expectedSum then .ok image
    else .error (.vectorSum image.expectedSum image.storedSum)

/-- The image as it is after `prepare`, which changes it also where protection then makes
    it fail. -/
def settled (image : Image) (mode : UserCode) : Image :=
  match image.settleSum mode with
  | .ok settled => settled
  | .error _ => image

/-- Deals with the eighth vector, then refuses a protected image. -/
def prepare (image : Image) (mode : UserCode) : Except Failure Image := do
  let settled ← image.settleSum mode
  settled.checkProtection
  return settled

/-- The content filled up with zeros to whole blocks. -/
def blocks (image : Image) (blockSize : Nat) : Bytes :=
  image.data.padTo (Bytes.roundUp blockSize image.data.length)

end Image
end SerialIsp
