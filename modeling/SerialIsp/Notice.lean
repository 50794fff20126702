import SerialIsp.Failure
import SerialIsp.Text.Hexdump
import SerialIsp.Wire.Block

/-!
# Notices

What the program tells about its own doings while it works. A notice is kept as the event
it reports; its importance and its wording are read off it. Notices never influence what
the program does.
-/

namespace SerialIsp

/-- How important a notice is, most important first. -/
inductive Importance where
  | warning
  | info
  | debug
  deriving DecidableEq, Repr, Inhabited

/-- The importance as a number, greater for less important notices. -/
def Importance.rank : Importance → Nat
  | .warning => 1
  | .info => 2
  | .debug => 3

/-- An event worth telling. -/
inductive Notice where
  -- the line
  | sending (data : Bytes)
  | received (data : Bytes)
  | receivedLine (text : String)
  | cutShort (received wanted : Nat)
  -- the handshake
  | unexpectedLine (text : String)
  | echoDisabled (status : Wire.Status)
  | synchronized (crystal : UInt32)
  | syncFailedQuietly (phase : Session.Phase) (failure : Failure)
  | syncFailed (phase : Session.Phase)
  | probing
  | probeFailed (failure : Failure)
  | connected (name : String) (id : UInt32)
  | partFound (id : UInt64) (name source : String)
  -- commands and transfers
  | sendingCommand (command : Wire.Command)
  | statusTraced (command : Wire.CommandKind) (status : Wire.Status)
  | statusRefused (command : Wire.CommandKind) (status : Wire.Status)
  | readingBlocks (count blocks : Nat)
  | undecodableBlock (block : Nat) (failure : Failure)
  | malformedSum (text : String)
  | blockAnswered (text : String) (block : Nat)
  | resending (block resends : Nat)
  -- the flash
  | sumComputed (word : UInt32)
  | sumAccepted
  | sectorBlank (sector : UInt32)
  | sectorUsed (sector content offset : UInt32)
  | erased (erased : Nat) (sectors : UInt32)
  | writingBlocks (blocks : Nat) (size : UInt32)
  | writingBlock (index : Nat) (sector : UInt32)
  | nothingToVerify
  | verified
  | dumped (size : Nat)
  | started (address : UInt32) (mode : Wire.ExecutionMode)
  | failedWhile (stage : String)
  -- the command line
  | portChosen (port : String) (baud : UInt32)
  | openingPort (port : String) (baud : UInt32)
  | synchronizedByUser (crystal : UInt32)
  | unlocked
  | fileRead (size : Nat) (path : String)
  | fileWritten (size : Nat) (path : String)
  | ramWritten (size : Nat) (address : UInt32)
  | prepared (first last : UInt32)
  | copied (size ramAddress flashAddress : UInt32)
  | sectorsErased (first last : UInt32)
  | imageLoaded (size : Nat) (path : String)
  | imageWritten (path : String)
  | partsFrom (source : String)
  | dumpWritten (path : String)
  | flashingDone
  deriving Repr

namespace Notice

/-- How important a notice is. -/
def importance : Notice → Importance
  | .syncFailed _ | .statusRefused .. | .resending .. | .failedWhile _ => .warning
  | .sending _ | .received _ | .receivedLine _ | .statusTraced .. | .connected .. => .info
  | .sumAccepted | .erased .. | .writingBlocks .. | .verified | .dumped _ | .started .. => .info
  | .portChosen .. | .synchronizedByUser _ | .unlocked | .fileWritten .. => .info
  | .ramWritten .. | .prepared .. | .copied .. | .sectorsErased .. => .info
  | .imageWritten _ | .dumpWritten _ | .flashingDone => .info
  | _ => .debug

/-- A notice in words. -/
def text : Notice → String
  | .sending data => s!"Sending {data.length} bytes\n" ++ Text.hexdump data 0
  | .received data => s!"Received {data.length} bytes\n" ++ Text.hexdump data 0
  | .receivedLine text => "Received line " ++ Text.quoted text
  | .cutShort got wanted => s!"Read {got} of {wanted} bytes before timing out"
  | .unexpectedLine text => "Expected \"OK\", received " ++ Text.quoted text
  | .echoDisabled status => "Echo disabled with status " ++ status.text
  | .synchronized crystal => s!"Synchronized at {crystal} kHz"
  | .syncFailedQuietly phase failure =>
    "Synchronization failed in state " ++ phase.name ++ ": " ++ failure.message
  | .syncFailed phase => "Synchronization failed in state " ++ phase.name
  | .probing => "Handshake failed, probing for an already synchronized device"
  | .probeFailed failure => "Probe failed: " ++ failure.message
  | .connected name id =>
    "Connected to " ++ name ++ " (part ID " ++ Text.hexWord id.toNat ++ ")"
  | .partFound id name source =>
    "Part ID " ++ Text.hexWord id.toNat ++ " is " ++ name ++ " (" ++ source ++ ")"
  | .sendingCommand command => "Sending command: " ++ command.describe
  | .statusTraced command status => command.name ++ " returned status " ++ status.text
  | .statusRefused command status => command.name ++ " returned status " ++ status.text
  | .readingBlocks count blocks => s!"Reading {count} bytes in {blocks} blocks"
  | .undecodableBlock block failure =>
    s!"Block {block} could not be decoded: " ++ failure.message
  | .malformedSum text => "Malformed block checksum " ++ Text.quoted text
  | .blockAnswered text block =>
    "Device answered " ++ Text.quoted text ++ s!" to block {block}"
  | .resending block resends =>
    s!"Checksum mismatch on block {block}, resending ({resends}/{Wire.maxResends})"
  | .sumComputed word => "Vector table checksum set to " ++ Text.hexWord word.toNat
  | .sumAccepted => "Vector table checksum OK"
  | .sectorBlank sector => s!"Sector {sector} is blank"
  | .sectorUsed sector content offset =>
    s!"Sector {sector} holds " ++ Text.hexWord content.toNat ++ " at offset " ++
      Text.hexMarked offset.toNat
  | .erased count sectors => s!"Erased {count} of {sectors} sectors, flash is now blank"
  | .writingBlocks blocks size => s!"Writing {blocks} blocks of {size} bytes"
  | .writingBlock index sector => s!"Writing block {index} to sector {sector}"
  | .nothingToVerify => "Image lies within the remapped vectors, nothing to verify"
  | .verified => "Flash contents verified"
  | .dumped size => s!"Dumped {size} bytes of flash"
  | .started address mode =>
    "Started execution at " ++ Text.hexWord address.toNat ++ " in " ++ mode.name ++ " mode"
  | .failedWhile stage => "Operation failed while " ++ stage
  | .portChosen port baud => "Serial port: " ++ port ++ s!" at {baud} baud"
  | .openingPort port baud => "Opening serial port " ++ port ++ s!" at {baud} baud"
  | .synchronizedByUser crystal => s!"Synchronized at {crystal} kHz"
  | .unlocked => "Flash commands unlocked"
  | .fileRead size path => s!"Read {size} bytes from " ++ path
  | .fileWritten size path => s!"Wrote {size} bytes to " ++ path
  | .ramWritten size address =>
    s!"Wrote {size} bytes to RAM at " ++ Text.hexWord address.toNat
  | .prepared first last => s!"Sectors {first} to {last} prepared for write"
  | .copied size ramAddress flashAddress =>
    s!"Copied {size} bytes from " ++ Text.hexWord ramAddress.toNat ++ " to " ++
      Text.hexWord flashAddress.toNat
  | .sectorsErased first last => s!"Sectors {first} to {last} erased"
  | .imageLoaded size path => s!"Loaded {size} bytes from " ++ path
  | .imageWritten path => "Image written to " ++ path
  | .partsFrom source => "Looking up parts in " ++ source
  | .dumpWritten path => "Flash contents written to " ++ path
  | .flashingDone => "Flashing has completed!"

end Notice
end SerialIsp
