import SerialIsp.Failure

/-!
# Parts

The memory geometry of one microcontroller: where its flash and RAM lie, how the flash is
divided into sectors, and which stretch of RAM stages the data to be programmed. A part is
fit for use when its flash ends inside the address space and divides into equal sectors.
-/

namespace SerialIsp

/-- How memory contents travel. -/
inductive Encoding where
  /-- As checksummed blocks of printable lines. -/
  | lines
  /-- As the bytes they are. -/
  | raw
  deriving DecidableEq, Repr, Inhabited

/-- Identity and memory geometry of a target device. -/
structure Part where
  id : UInt64
  name : String
  flashBase : UInt32
  flashSize : UInt32
  flashSectors : UInt32
  resetVectorOffset : UInt32
  ramBase : UInt32
  ramSize : UInt32
  /-- Offset within RAM of the buffer that stages data for the flash. -/
  ramBufferOffset : UInt32
  ramBufferSize : UInt32
  encoding : Encoding
  deriving DecidableEq, Repr, Inhabited

namespace Part

/-- The size of one sector; a part without sectors counts as one of a single sector. -/
def sectorSize (p : Part) : UInt32 := p.flashSize / max p.flashSectors 1

/-- The sector that holds the flash byte at `offset` from the flash base. -/
def sectorOf (p : Part) (offset : UInt32) : UInt32 := offset / max p.sectorSize 1

/-- The address of the RAM buffer, modulo 2^32. -/
def ramBufferAddress (p : Part) : UInt32 := p.ramBase + p.ramBufferOffset

/-- The address of the reset vector, modulo 2^32. -/
def resetVectorAddress (p : Part) : UInt32 := p.flashBase + p.resetVectorOffset

/-- Refuses a flash that runs past the last address or does not divide into equal
    sectors. -/
def checkGeometry (p : Part) : Except Failure Unit :=
  if p.flashBase.toNat + p.flashSize.toNat ≥ Text.limit32 then
    .error (.badGeometry p.name (.pastAddressSpace p.flashSize p.flashBase))
  else if p.flashSectors = 0 ∨ p.flashSize % p.flashSectors ≠ 0 then
    .error (.badGeometry p.name (.unevenSectors p.flashSize p.flashSectors))
  else .ok ()

/-- Refuses a RAM buffer that is not entirely inside the RAM. The ranges are compared as
    unbounded numbers. -/
def checkRamBuffer (p : Part) : Except Failure Unit :=
  let ramStart := p.ramBase.toNat
  let ramStop := ramStart + p.ramSize.toNat
  let start := ramStart + p.ramBufferOffset.toNat
  let stop := start + p.ramBufferSize.toNat
  if start < ramStart ∨ stop > ramStop then .error (.bufferOutsideRam start stop ramStart ramStop)
  else .ok ()

end Part
end SerialIsp
