import SerialIsp.Text.Quoted
import SerialIsp.Wire.Command
import SerialIsp.Wire.Status
import SerialIsp.Session.Phase
import SerialIsp.Part.Fault

/-!
# Failures

Every way an operation can fail, as a cause with the values that describe it. The wording
is kept apart from the causes: `message` is the headline, `chain` the texts of what caused
it, outermost first, `code` a stable identifier and `help` advice on what to do.

Faults of the line (`LinkFault`) are wrapped in the stage at which they struck:
`connecting` by default, `flashing` once programming has begun.
-/

namespace SerialIsp

/-- The kinds of system fault that are told apart. -/
inductive SystemFault where
  | timedOut
  | notFound
  | unexpectedEnd
  | other
  deriving DecidableEq, Repr

/-- The kinds of serial driver fault that are told apart. -/
inductive DriverFault where
  | timedOut
  | noDevice
  | other
  deriving DecidableEq, Repr

/-- Why a call on the serial port failed: the kind of fault, and the text it came with. -/
inductive PortFault where
  /-- The operating system failed the call. -/
  | system (kind : SystemFault) (text : String)
  /-- The serial driver failed the call. -/
  | driver (kind : DriverFault) (text : String)
  deriving DecidableEq, Repr

/-- What can go wrong between the host and the device. -/
inductive LinkFault where
  /-- Neither the handshake nor a command was answered. -/
  | noAnswer
  /-- There is no such port. -/
  | noDevice
  /-- The handshake went off its script in this phase. -/
  | handshake (phase : Session.Phase)
  /-- A reply that makes no sense. -/
  | malformedReply (text : String)
  /-- The port took only part of what was written. -/
  | shortWrite (expected written : Nat)
  /-- A reply did not come in time, to this command if one is known. -/
  | timeout (command : Option Wire.CommandKind)
  /-- The port was closed from the other side. -/
  | endOfStream
  /-- Any other fault of the serial driver. -/
  | driver (text : String)
  /-- Any other fault of the operating system. -/
  | system (text : String)
  deriving DecidableEq, Repr

namespace LinkFault

/-- What a failed call on the port means for the session. -/
def ofPort : PortFault → LinkFault
  | .system .timedOut _ => .timeout none
  | .system .notFound _ => .noDevice
  | .system .unexpectedEnd _ => .endOfStream
  | .system .other text => .system text
  | .driver .timedOut _ => .timeout none
  | .driver .noDevice _ => .noDevice
  | .driver .other text => .driver text

/-- Names the command a timeout belongs to; any other fault is left as it is. -/
def during (command : Wire.CommandKind) : LinkFault → LinkFault
  | .timeout _ => .timeout (some command)
  | fault => fault

/-- The fault in words. -/
def message : LinkFault → String
  | .noAnswer => "Failed to synchronize with the device"
  | .noDevice => "Serial port not found"
  | .handshake phase => "Unexpected reply while in the " ++ phase.name ++ " handshake state"
  | .malformedReply text => "Malformed reply received: " ++ Text.quoted text
  | .shortWrite expected written => s!"Wrote {written} of {expected} bytes to the serial port"
  | .timeout none => "Timeout while running command"
  | .timeout (some command) => "Timeout while running " ++ command.name ++ " command"
  | .endOfStream => "End of stream reached on the serial port"
  | .driver text => "IO error while using serial port: " ++ text
  | .system text => "IO error: " ++ text

/-- The text of the port fault behind this one, if one is kept. -/
def cause : LinkFault → Option String
  | .driver text => some text
  | .system text => some text
  | _ => none

/-- The last part of the fault's identifier. -/
def code : LinkFault → String
  | .noAnswer => "connection_failed"
  | .noDevice => "device_not_found"
  | .handshake _ => "handshake"
  | .malformedReply _ => "malformed_reply"
  | .shortWrite .. => "short_write"
  | .timeout _ => "timeout"
  | .endOfStream => "end_of_stream"
  | .driver _ => "serial_error"
  | .system _ => "io_error"

/-- What the user can do about it. -/
def help : LinkFault → Option String
  | .noAnswer => some "Hold the ISP pin low while resetting the target, then try again"
  | .noDevice =>
    some "Ensure that the device is connected and your host recognizes the serial adapter"
  | .handshake _ =>
    some "The device may already be synchronized, or the baud rate does not match"
  | _ => none

end LinkFault

/-- Why a file could not be read or written. -/
inductive FileFault where
  | notFound
  | notDirectory
  | isDirectory
  | nameTooLong
  | notText
  | other (text : String)
  deriving DecidableEq, Repr

/-- The system's text for the fault. -/
def FileFault.message : FileFault → String
  | .notFound => "No such file or directory (os error 2)"
  | .notDirectory => "Not a directory (os error 20)"
  | .isDirectory => "Is a directory (os error 21)"
  | .nameTooLong => "File name too long (os error 36)"
  | .notText => "stream did not contain valid UTF-8"
  | .other text => text

/-- The arguments whose alignment is checked. -/
inductive Operand where
  | address
  | byteCount
  | firstAddress
  | secondAddress
  | ramAddress
  | flashAddress
  | ramBufferAddress
  deriving DecidableEq, Repr

/-- The argument's name in messages. -/
def Operand.name : Operand → String
  | .address => "Address"
  | .byteCount => "Byte count"
  | .firstAddress => "First address"
  | .secondAddress => "Second address"
  | .ramAddress => "RAM address"
  | .flashAddress => "Flash address"
  | .ramBufferAddress => "RAM buffer address"

/-- Why an operation failed. -/
inductive Failure where
  /-- The line failed outside of programming. -/
  | connecting (fault : LinkFault)
  /-- The line failed while the flash was being programmed. -/
  | flashing (fault : LinkFault)
  /-- The bootloader refused a command. -/
  | refused (command : Wire.CommandKind) (status : Wire.Status)
  /-- A block stayed corrupt however often it was sent. -/
  | corruptBlock (block attempts : Nat)
  /-- The vector table does not sum to zero. -/
  | vectorSum (expected found : UInt32)
  /-- The image would lock the device. -/
  | protectedImage (word : UInt32)
  | imageTooBig (size : Nat) (flashSize : UInt32)
  | emptyImage
  | noWriteSize (sectorSize ramBufferSize : UInt32)
  /-- The RAM buffer is not inside the RAM; both as half-open ranges. -/
  | bufferOutsideRam (start stop ramStart ramStop : Nat)
  | misaligned (operand : Operand) (value alignment : UInt32)
  | copyLength (size : UInt32)
  | jumpAddress (address : UInt32)
  | sectorRange (first last : UInt32)
  | executionMode (text : String)
  | unknownPart (id : UInt64)
  | badRecord (line : Nat) (fault : Part.RecordFault)
  | badGeometry (name : String) (fault : Part.GeometryFault)
  /-- Printable lines that cannot be read, at the offset of the line that is cut. -/
  | cutLine (offset : Nat)
  | verification (offset : Nat)
  | shortRead (expected received : Nat)
  | noPorts
  | portNotFound (name : String)
  | severalPorts (names : String)
  | unreadableFile (path : String) (fault : FileFault)
  | unwritableOutput (fault : FileFault)
  deriving DecidableEq, Repr

namespace Failure

/-- The headline. -/
def message : Failure → String
  | .connecting _ => "Error while connecting to device"
  | .flashing _ => "Communication error while flashing device"
  | .refused .. => "The bootloader returned an error"
  | .corruptBlock block attempts =>
    s!"Block {block} still corrupt after {attempts} attempts, transfer aborted"
  | .vectorSum expected found =>
    "Vector table checksum is " ++ Text.hexWord found.toNat ++ ", should be " ++
      Text.hexWord expected.toNat
  | .protectedImage word =>
    "The image activates code read protection (" ++ Text.hexWord word.toNat ++ ")"
  | .imageTooBig size flashSize => s!"Image of {size}B does not fit in {flashSize}B of flash"
  | .emptyImage => "The supplied image is empty"
  | .noWriteSize sectorSize ramBufferSize =>
    s!"No usable write block size for a sector of {sectorSize}B and a RAM buffer of " ++
      s!"{ramBufferSize}B"
  | .bufferOutsideRam start stop ramStart ramStop =>
    "RAM buffer " ++ Text.hexWord start ++ ".." ++ Text.hexWord stop ++
      " lies outside of RAM " ++ Text.hexWord ramStart ++ ".." ++ Text.hexWord ramStop
  | .misaligned operand value alignment =>
    operand.name ++ " " ++ Text.hexWord value.toNat ++ s!" must be a multiple of {alignment}"
  | .copyLength size => s!"Copy length {size} is not supported"
  | .jumpAddress address =>
    "Jump address " ++ Text.hexWord address.toNat ++ " lies inside the vector table"
  | .sectorRange first last => s!"Invalid sector range {first}..={last}"
  | .executionMode text => "Execution mode '" ++ text ++ "' is invalid"
  | .unknownPart id => "Part ID " ++ Text.hexWord id.toNat ++ " is not described"
  | .badRecord line fault =>
    s!"Malformed parts description at line {line}: " ++ fault.reason
  | .badGeometry name fault =>
    "Part description of " ++ name ++ " is invalid: " ++ fault.reason
  | .cutLine offset => s!"Malformed UU-encoded data at offset {offset}"
  | .verification offset =>
    "Verification of flash content failed at offset " ++ Text.hexMarked offset
  | .shortRead expected received => s!"Read {received} bytes of memory instead of {expected}"
  | .noPorts => "No serial ports could be detected"
  | .portNotFound name => "The serial port '" ++ name ++ "' could not be found"
  | .severalPorts names => "Several serial ports were detected: " ++ names
  | .unreadableFile path _ => "Failed to open file: " ++ path
  | .unwritableOutput _ => "Failed to write memory contents"

/-- The texts of what caused the failure, nearest cause first. -/
def chain : Failure → List String
  | .connecting fault => fault.message :: fault.cause.toList
  | .flashing fault => fault.message :: fault.cause.toList
  | .refused command status =>
    ["The " ++ command.name ++ " command failed with status " ++ status.text]
  | .unreadableFile _ fault => [fault.message]
  | .unwritableOutput fault => [fault.message]
  | _ => []

/-- The last part of the failure's identifier. -/
def codeName : Failure → String
  | .connecting fault => fault.code
  | .flashing fault => fault.code
  | .refused .. => "status"
  | .corruptBlock .. => "block_checksum"
  | .vectorSum .. => "vector_checksum"
  | .protectedImage _ => "crp_protected"
  | .imageTooBig .. => "image_too_big"
  | .emptyImage => "empty_image"
  | .noWriteSize .. => "invalid_write_size"
  | .bufferOutsideRam .. => "ram_buffer_out_of_range"
  | .misaligned .. => "misaligned"
  | .copyLength _ => "invalid_copy_length"
  | .jumpAddress _ => "invalid_jump_address"
  | .sectorRange .. => "invalid_sector_range"
  | .executionMode _ => "invalid_mode"
  | .unknownPart _ => "unknown_part"
  | .badRecord .. => "parts_file"
  | .badGeometry .. => "invalid_part"
  | .cutLine _ => "uu_decode"
  | .verification _ => "verify_failed"
  | .shortRead .. => "short_read"
  | .noPorts => "no_serial"
  | .portNotFound _ => "serial_not_found"
  | .severalPorts _ => "multiple_serial"
  | .unreadableFile .. => "file_open"
  | .unwritableOutput _ => "output"

/-- The failure's identifier. -/
def code (f : Failure) : String := "lpcflash::" ++ f.codeName

/-- What the user can do about it. -/
def help : Failure → Option String
  | .connecting fault => fault.help
  | .flashing fault => fault.help
  | .corruptBlock .. =>
    some "The serial link is unreliable, try a lower baud rate or a shorter cable"
  | .vectorSum .. => some "Remove the `--no-user-code` option to let lpcflash compute vector 7"
  | .protectedImage _ =>
    some ("Images which lock ISP or debug access are refused. Check the licence of the " ++
      "software you are flashing and rebuild it without CRP enabled")
  | .noWriteSize .. => some "Sectors and the RAM scratch buffer must both hold at least 64 bytes"
  | .bufferOutsideRam .. => some "Fix the RAM buffer offset and size of the part description"
  | .copyLength _ =>
    some "The number of bytes copied to flash must be one of 256, 512, 1024 or 4096"
  | .jumpAddress _ => some "The go command requires an address of 0x00000200 or greater"
  | .sectorRange .. => some "The last sector must be greater than or equal to the first sector"
  | .executionMode _ => some "The accepted values are: thumb, arm"
  | .unknownPart _ =>
    some "Add the part to the parts description file, or pass one with `--parts`"
  | .noPorts => some "Make sure the device is connected, or pass the port explicitly"
  | .portNotFound _ => some "Make sure the correct device is connected to the host system"
  | .severalPorts _ => some "Select one with `--port` or in the configuration file"
  | _ => none

/-- Marks a failure of the line as one that struck while programming. -/
def whileFlashing : Failure → Failure
  | .connecting fault => .flashing fault
  | failure => failure

/-- Names the command a timeout belongs to. -/
def during (command : Wire.CommandKind) : Failure → Failure
  | .connecting fault => .connecting (fault.during command)
  | .flashing fault => .flashing (fault.during command)
  | failure => failure

end Failure
end SerialIsp
