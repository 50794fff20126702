import SerialIsp.Bytes
import SerialIsp.Text.Radix

/-!
# Bootloader commands

A command is one line: a letter, then its arguments in order, each after one space, then
carriage return and line feed. Numbers are sent in decimal. The kind of a command fixes its
letter, how many number lines follow a successful status, and how long the bootloader may
take to answer.
-/

namespace SerialIsp.Wire

/-- The instruction set the target starts executing in. -/
inductive ExecutionMode where
  | thumb
  | arm
  deriving DecidableEq, Repr, Inhabited

namespace ExecutionMode

/-- The mode's name in messages. -/
def name : ExecutionMode → String
  | .thumb => "thumb"
  | .arm => "arm"

/-- The letter that stands for the mode in a command line. -/
def letter : ExecutionMode → UInt8
  | .thumb => 'T'.toNat.toUInt8
  | .arm => 'A'.toNat.toUInt8

/-- Reads a mode's name, in any mixture of ASCII upper and lower case. -/
def ofName? (s : String) : Option ExecutionMode :=
  let lower := s.toList.map Char.toLower
  if lower = "thumb".toList then some .thumb
  else if lower = "arm".toList then some .arm
  else none

/-- The mode an entry address implies, and the address to jump to: bit zero of the entry
    selects Thumb and is no part of the address. -/
def ofEntry (entry : UInt32) : ExecutionMode × UInt32 :=
  if entry &&& 1 = 1 then (.thumb, entry - 1) else (.arm, entry)

end ExecutionMode

/-- The thirteen kinds of command. -/
inductive CommandKind where
  | unlock
  | setEcho
  | writeToRam
  | readMemory
  | prepareForWrite
  | copyRamToFlash
  | go
  | erase
  | blankCheck
  | readPartId
  | readBootVersion
  | compare
  | readUid
  deriving DecidableEq, Repr, Inhabited

namespace CommandKind

/-- The kind's name in messages. -/
def name : CommandKind → String
  | .unlock => "unlock"
  | .setEcho => "set-echo"
  | .writeToRam => "write-to-ram"
  | .readMemory => "read-memory"
  | .prepareForWrite => "prepare-for-write"
  | .copyRamToFlash => "copy-ram-to-flash"
  | .go => "go"
  | .erase => "erase"
  | .blankCheck => "blank-check"
  | .readPartId => "read-part-id"
  | .readBootVersion => "read-boot-version"
  | .compare => "compare"
  | .readUid => "read-uid"

/-- The letter a command line of this kind opens with. -/
def letter : CommandKind → Char
  | .unlock => 'U'
  | .setEcho => 'A'
  | .writeToRam => 'W'
  | .readMemory => 'R'
  | .prepareForWrite => 'P'
  | .copyRamToFlash => 'C'
  | .go => 'G'
  | .erase => 'E'
  | .blankCheck => 'I'
  | .readPartId => 'J'
  | .readBootVersion => 'K'
  | .compare => 'M'
  | .readUid => 'N'

/-- Number lines that follow a successful status. -/
def replyLines : CommandKind → Nat
  | .readPartId => 1
  | .readBootVersion => 2
  | .readUid => 4
  | _ => 0

/-- Milliseconds the bootloader may take to answer. Erasing and programming flash take
    longer than the rest. -/
def patience : CommandKind → Nat
  | .erase => 2000
  | .copyRamToFlash => 1000
  | _ => 500

end CommandKind

/-- A command with its arguments. -/
inductive Command where
  | unlock
  | setEcho (enabled : Bool)
  | writeToRam (address size : UInt32)
  | readMemory (address size : UInt32)
  | prepareForWrite (first last : UInt32)
  | copyRamToFlash (flashAddress ramAddress size : UInt32)
  | go (address : UInt32) (mode : ExecutionMode)
  | erase (first last : UInt32)
  | blankCheck (first last : UInt32)
  | readPartId
  | readBootVersion
  | compare (address1 address2 size : UInt32)
  | readUid
  deriving DecidableEq, Repr, Inhabited

/-- The code the unlock command has to carry. -/
def unlockCode : Nat := 23130

/-- A number as it stands in a line. -/
def number (n : Nat) : Bytes := Bytes.ascii (Text.decimal n)

namespace Command

/-- The kind of a command. -/
def kind : Command → CommandKind
  | .unlock => .unlock
  | .setEcho .. => .setEcho
  | .writeToRam .. => .writeToRam
  | .readMemory .. => .readMemory
  | .prepareForWrite .. => .prepareForWrite
  | .copyRamToFlash .. => .copyRamToFlash
  | .go .. => .go
  | .erase .. => .erase
  | .blankCheck .. => .blankCheck
  | .readPartId => .readPartId
  | .readBootVersion => .readBootVersion
  | .compare .. => .compare
  | .readUid => .readUid

/-- The arguments as they stand in the line, in order. -/
def arguments : Command → List Bytes
  | .unlock => [number unlockCode]
  | .setEcho enabled => [number enabled.toNat]
  | .writeToRam address size => [number address.toNat, number size.toNat]
  | .readMemory address size => [number address.toNat, number size.toNat]
  | .prepareForWrite first last => [number first.toNat, number last.toNat]
  | .copyRamToFlash flashAddress ramAddress size =>
    [number flashAddress.toNat, number ramAddress.toNat, number size.toNat]
  | .go address mode => [number address.toNat, [mode.letter]]
  | .erase first last => [number first.toNat, number last.toNat]
  | .blankCheck first last => [number first.toNat, number last.toNat]
  | .readPartId => []
  | .readBootVersion => []
  | .compare address1 address2 size =>
    [number address1.toNat, number address2.toNat, number size.toNat]
  | .readUid => []

/-- The space that precedes an argument. -/
def space : UInt8 := 32

/-- The command line, line end included. -/
def line (c : Command) : Bytes :=
  c.kind.letter.toNat.toUInt8 :: c.arguments.flatMap (space :: ·) ++ [Bytes.cr, Bytes.lf]

/-- A constructor with its named fields, as messages show it. -/
def record (name : String) (fields : List (String × String)) : String :=
  name ++ " \x7b " ++ String.intercalate ", " (fields.map fun f => f.1 ++ ": " ++ f.2) ++ " \x7d"

/-- The command in full, as messages show it. -/
def describe : Command → String
  | .unlock => "Unlock"
  | .setEcho enabled => record "SetEcho" [("enabled", toString enabled)]
  | .writeToRam address size =>
    record "WriteToRam" [("address", toString address), ("size", toString size)]
  | .readMemory address size =>
    record "ReadMemory" [("address", toString address), ("size", toString size)]
  | .prepareForWrite first last =>
    record "PrepareForWrite" [("first", toString first), ("last", toString last)]
  | .copyRamToFlash flashAddress ramAddress size =>
    record "CopyRamToFlash" [("flash_address", toString flashAddress),
      ("ram_address", toString ramAddress), ("size", toString size)]
  | .go address mode =>
    record "Go" [("address", toString address),
      ("mode", match mode with | .thumb => "Thumb" | .arm => "Arm")]
  | .erase first last => record "Erase" [("first", toString first), ("last", toString last)]
  | .blankCheck first last =>
    record "BlankCheck" [("first", toString first), ("last", toString last)]
  | .readPartId => "ReadPartId"
  | .readBootVersion => "ReadBootVersion"
  | .compare address1 address2 size =>
    record "Compare" [("address1", toString address1), ("address2", toString address2),
      ("size", toString size)]
  | .readUid => "ReadUid"

end Command
end SerialIsp.Wire
