import SerialIsp.Text.Quoted

/-!
# What can be wrong with a part description

A record of a parts file can be malformed, and a well-formed description can contradict
itself. Each cause is a constructor; the wording stands beside it.
-/

namespace SerialIsp.Part

/-- The numeric fields of a record, in the order they stand in it. -/
inductive Field where
  | flashBase
  | flashSize
  | flashSectors
  | resetVectorOffset
  | ramBase
  | ramSize
  | ramBufferOffset
  | ramBufferSize
  | encodedFlag
  deriving DecidableEq, Repr

/-- The field's name in messages. -/
def Field.name : Field → String
  | .flashBase => "flash base"
  | .flashSize => "flash size"
  | .flashSectors => "sector count"
  | .resetVectorOffset => "reset vector offset"
  | .ramBase => "RAM base"
  | .ramSize => "RAM size"
  | .ramBufferOffset => "RAM buffer offset"
  | .ramBufferSize => "RAM buffer size"
  | .encodedFlag => "uuencode flag"

/-- The marker every part name starts with. -/
def nameMarker : String := "LPC"

/-- Why a line is no record. -/
inductive RecordFault where
  | badPartId (text : String)
  | nameMissing
  | nameUnmarked (name : String)
  | nameTooLong (name : String)
  | fieldMissing (field : Field)
  | fieldInvalid (field : Field) (text : String)
  | noSectors
  deriving DecidableEq, Repr

/-- The fault in words. -/
def RecordFault.reason : RecordFault → String
  | .badPartId text => "invalid part ID " ++ Text.quoted text
  | .nameMissing => "nothing after the part ID"
  | .nameUnmarked name =>
    "part name " ++ Text.quoted name ++ " does not start with " ++ nameMarker
  | .nameTooLong name => "part name " ++ Text.quoted name ++ " is too long"
  | .fieldMissing field => field.name ++ " is missing"
  | .fieldInvalid field text => "invalid " ++ field.name ++ " " ++ Text.quoted text
  | .noSectors => "sector count must not be zero"

/-- Why a flash geometry is impossible. -/
inductive GeometryFault where
  /-- The flash runs past the end of the 32-bit address space. -/
  | pastAddressSpace (size base : UInt32)
  /-- The flash does not divide into sectors of one size. -/
  | unevenSectors (size sectors : UInt32)
  deriving DecidableEq, Repr

/-- The fault in words. -/
def GeometryFault.reason : GeometryFault → String
  | .pastAddressSpace size base =>
    Text.hexMarked size.toNat ++ " bytes of flash at " ++ Text.hexWord base.toNat ++
      " run past the end of the address space"
  | .unevenSectors size sectors =>
    Text.hexMarked size.toNat ++ s!" bytes of flash do not divide into {sectors} sectors"

end SerialIsp.Part
