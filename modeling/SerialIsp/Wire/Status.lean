/-!
# Status replies

Every command is answered by a decimal status. Twenty values have a meaning; any other is
kept as the number it is.
-/

namespace SerialIsp.Wire

/-- The status values with a meaning, in the order of their wire values. -/
inductive StatusCode where
  | cmdSuccess
  | invalidCommand
  | srcAddrError
  | dstAddrError
  | srcAddrNotMapped
  | dstAddrNotMapped
  | countError
  | invalidSector
  | sectorNotBlank
  | sectorNotPrepared
  | compareError
  | busy
  | paramError
  | addrError
  | addrNotMapped
  | cmdLocked
  | invalidCode
  | invalidBaudRate
  | invalidStopBit
  | codeReadProtectionEnabled
  deriving DecidableEq, Repr

namespace StatusCode

/-- Every status code, at the position of its wire value. -/
def all : List StatusCode := [
  .cmdSuccess, .invalidCommand, .srcAddrError, .dstAddrError, .srcAddrNotMapped,
  .dstAddrNotMapped, .countError, .invalidSector, .sectorNotBlank, .sectorNotPrepared,
  .compareError, .busy, .paramError, .addrError, .addrNotMapped, .cmdLocked, .invalidCode,
  .invalidBaudRate, .invalidStopBit, .codeReadProtectionEnabled]

/-- The number sent on the wire. -/
def value (c : StatusCode) : UInt32 := (all.idxOf c).toUInt32

/-- The name the bootloader's manual gives the code. -/
def name : StatusCode → String
  | .cmdSuccess => "CMD_SUCCESS"
  | .invalidCommand => "INVALID_COMMAND"
  | .srcAddrError => "SRC_ADDR_ERROR"
  | .dstAddrError => "DST_ADDR_ERROR"
  | .srcAddrNotMapped => "SRC_ADDR_NOT_MAPPED"
  | .dstAddrNotMapped => "DST_ADDR_NOT_MAPPED"
  | .countError => "COUNT_ERROR"
  | .invalidSector => "INVALID_SECTOR"
  | .sectorNotBlank => "SECTOR_NOT_BLANK"
  | .sectorNotPrepared => "SECTOR_NOT_PREPARED_FOR_WRITE_OPERATION"
  | .compareError => "COMPARE_ERROR"
  | .busy => "BUSY"
  | .paramError => "PARAM_ERROR"
  | .addrError => "ADDR_ERROR"
  | .addrNotMapped => "ADDR_NOT_MAPPED"
  | .cmdLocked => "CMD_LOCKED"
  | .invalidCode => "INVALID_CODE"
  | .invalidBaudRate => "INVALID_BAUD_RATE"
  | .invalidStopBit => "INVALID_STOP_BIT"
  | .codeReadProtectionEnabled => "CODE_READ_PROTECTION_ENABLED"

end StatusCode

/-- A status as received. -/
inductive Status where
  | known (code : StatusCode)
  | unknown (value : UInt32)
  deriving DecidableEq, Repr

namespace Status

/-- The status a wire value stands for. -/
def ofValue (n : UInt32) : Status :=
  match StatusCode.all[n.toNat]? with
  | some code => .known code
  | none => .unknown n

/-- The wire value of a status. -/
def value : Status → UInt32
  | .known code => code.value
  | .unknown n => n

/-- Whether the command was carried out. -/
def isSuccess : Status → Bool
  | .known .cmdSuccess => true
  | _ => false

/-- The status in words. -/
def text : Status → String
  | .known code => s!"{code.value} ({code.name})"
  | .unknown n => s!"{n} (unknown status code)"

end Status
end SerialIsp.Wire
