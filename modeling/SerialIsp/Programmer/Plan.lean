import SerialIsp.Image
import SerialIsp.Notice
import SerialIsp.Session.Commands
import SerialIsp.Part.Basic

/-!
# Programming plans

Before a device is touched, an image and a part are settled into a plan: the exact bytes to
be programmed, a whole number of blocks, and the size of a block. Whatever makes an image
unfit is found out here. Once there is a plan, only the device or the line can fail, but for a
flash that does not start a word, which goes unnoticed until it is read back.
-/

namespace SerialIsp

/-- The block sizes that are tried, largest first. Sixty-four bytes are taken by the smaller
    parts only, which have no larger buffer to offer. -/
def writeSizes : List UInt32 := [4096, 1024, 512, 256, 64]

/-- The largest block size that fits both a sector and the RAM buffer, or zero when none
    does. -/
def writeSize (sectorSize ramBufferSize : UInt32) : UInt32 :=
  (writeSizes.find? fun size => size ≤ min sectorSize ramBufferSize).getD 0

/-- What will be programmed from the start of the flash on. -/
structure Plan where
  data : Bytes
  blockSize : UInt32
  deriving DecidableEq, Repr

namespace Plan

/-- Refuses what does not fit in the flash of a part. -/
def checkSize (part : Part) (size : Nat) : Except Failure Unit :=
  if size > part.flashSize.toNat then .error (.imageTooBig size part.flashSize) else .ok ()

/-- The block size for a part, unless even the smallest is too large for it. -/
def blockSizeFor (part : Part) : Except Failure UInt32 :=
  let size := writeSize part.sectorSize part.ramBufferSize
  if size = 0 then .error (.noWriteSize part.sectorSize part.ramBufferSize) else .ok size

/-- The plan to program an image, or the first thing that stands against it. -/
def make (part : Part) (image : Image) (mode : UserCode) : Except Failure Plan := do
  let image ← image.prepare mode
  checkSize part image.length
  part.checkRamBuffer
  checkAlignment .ramBufferAddress part.ramBufferAddress 4
  let blockSize ← blockSizeFor part
  let data := image.blocks blockSize.toNat
  checkSize part data.length
  return { data, blockSize }

/-- The blocks of a plan, in order. -/
def blocks (plan : Plan) : List Bytes := Bytes.chunks plan.blockSize.toNat plan.data

end Plan

/-- What is told about the eighth vector while an image is prepared. -/
def Image.sumNotices (image : Image) : UserCode → List Notice
  | .compute => [.sumComputed image.expectedSum, .sumAccepted]
  | .verify => if image.storedSum = image.expectedSum then [.sumAccepted] else []

end SerialIsp
