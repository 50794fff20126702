import SerialIsp.Part.Source
import SerialIsp.Session.Commands
import SerialIsp.Session.Handshake

/-!
# Identifying a device

A device is identified by the number its bootloader reports, which is looked up among the
described parts. A device that was left synchronized answers no handshake, and refuses the
first command after one; there, one command is given up before the device is identified. How
the numbers in a parts file are read is left to a reader of literals, as in the look-up itself.
-/

namespace SerialIsp

/-- What a device says about itself. -/
structure DeviceInfo where
  partId : UInt32
  partName : String
  uid : Uid
  bootVersion : BootVersion
  deriving DecidableEq, Repr

/-- The information as lines, the last one without a line end. -/
def DeviceInfo.text (info : DeviceInfo) : String :=
  "Part:          " ++ info.partName ++ "\n" ++
  "Part ID:       " ++ Text.hexWord info.partId.toNat ++ "\n" ++
  "UID:           " ++ info.uid.text ++ "\n" ++
  "Boot code:     " ++ info.bootVersion.text

namespace Session

variable {δ : Type} [Transport δ]

/-- Gives up one command, with no input left before and after it. -/
def probe : SessionM δ Unit := do
  notify .probing
  clearInput
  if let .error failure ← attempt readPartId then notify (.probeFailed failure)
  clearInput

/-- Reads the part's identifier; a device that does not even answer that was not reached at
    all. -/
def identify : SessionM δ UInt32 := do
  match ← attempt readPartId with
  | .ok id => return id
  | .error (.connecting (.timeout _)) => failLink .noAnswer
  | .error failure => throw failure

section

variable (read : Text.LiteralReader)

/-- Looks up a part, and tells where it was found. -/
def describeBy (source : Part.Source) (fs : Files) (id : UInt64) : SessionM δ Part := do
  let part ← ofExcept (source.lookUpBy read fs id)
  notify (.partFound id part.name source.text)
  ofExcept part.checkGeometry
  return part

/-- Synchronizes with a device and identifies it. -/
def connectBy (crystal : UInt32) (source : Part.Source) (fs : Files) : SessionM δ Part := do
  if let .error _ ← attempt (synchronize crystal true) then probe
  let id ← identify
  assumeSynchronized
  let part ← describeBy read source fs id.toUInt64
  notify (.connected part.name id)
  return part

end

/-- `connectBy` with numbers as they are in parts files. -/
def connect (crystal : UInt32) (source : Part.Source) (fs : Files) : SessionM δ Part :=
  connectBy Text.readLiteral crystal source fs

/-- Asks a device that is described as `part` what it is. -/
def deviceInfo (part : Part) : SessionM δ DeviceInfo := do
  let partId ← readPartId
  let uid ← readUid
  let bootVersion ← readBootVersion
  return { partId, partName := part.name, uid, bootVersion }

end Session
end SerialIsp
