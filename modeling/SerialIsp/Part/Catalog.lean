import SerialIsp.Part.Basic

/-!
# Parts known without a parts file
-/

namespace SerialIsp.Part

/-- A part whose flash starts at address zero, whose RAM starts at `0x10000000`, and whose
    reset vector is the second word of the flash. -/
def standard (id : UInt64) (name : String) (flashSize flashSectors ramSize ramBufferOffset
    ramBufferSize : UInt32) (encoding : Encoding) : Part where
  id := id
  name := name
  flashBase := 0
  flashSize := flashSize
  flashSectors := flashSectors
  resetVectorOffset := 4
  ramBase := 0x10000000
  ramSize := ramSize
  ramBufferOffset := ramBufferOffset
  ramBufferSize := ramBufferSize
  encoding := encoding

/-- The built-in table, families LPC111x, LPC13xx and LPC81x. The first entry with an
    identifier is the one that counts. -/
def catalog : List Part := [
  standard 0x0A07102B "LPC1110FD20" 0x1000 1 0x400 0x200 0x100 .lines,
  standard 0x041E502B "LPC1111FHN33/101" 0x2000 2 0x800 0x400 0x400 .lines,
  standard 0x0416502B "LPC1112FHN33/101" 0x4000 4 0x800 0x400 0x400 .lines,
  standard 0x0434502B "LPC1113FHN33/201" 0x6000 6 0x1000 0x800 0x400 .lines,
  standard 0x0444102B "LPC1114FHN33/301" 0x8000 8 0x2000 0x800 0x1000 .lines,
  standard 0x0A40902B "LPC1114FN28/102" 0x8000 8 0x1000 0x800 0x400 .lines,
  standard 0x1A40902B "LPC1114FN28/102" 0x8000 8 0x1000 0x800 0x400 .lines,
  standard 0x3D00002B "LPC1343FBD48" 0x8000 8 0x2000 0x800 0x1000 .lines,
  standard 0x00008100 "LPC810M021" 0x1000 4 0x400 0x200 0x100 .raw,
  standard 0x00008110 "LPC811M001" 0x2000 8 0x800 0x400 0x400 .raw,
  standard 0x00008120 "LPC812M101" 0x4000 16 0x1000 0x800 0x400 .raw]

end SerialIsp.Part
