import SerialIsp.Part.Basic
import SerialIsp.Text.Literal

/-!
# Parts files

A parts file describes one part per line, as eleven fields between commas: the part's
identifier, its name, seven numbers of its geometry in the order of `Part`, the size of its
RAM buffer, and a flag that is zero for raw transfers. Blanks around a field do not count.
Blank lines and lines that start with `#` hold no record. Each record is read by itself, so
a malformed one spoils no other. What a number looks like is left to a reader of literals.
-/

namespace SerialIsp.Part

/-- The most bytes in a part's name. -/
def nameCapacity : Nat := 24

section

variable (read : Text.LiteralReader)

/-- Takes the next numeric field off a record. -/
def takeNumber (field : Field) : StateT (List (List Char)) (Except RecordFault) UInt32 := do
  match ← get with
  | [] => throw (.fieldMissing field)
  | text :: rest =>
    set rest
    match read Text.limit32 text with
    | .ok n => return n.toUInt32
    | .error _ => throw (.fieldInvalid field (String.ofList text))

/-- Takes the part's identifier off a record. -/
def takeId : StateT (List (List Char)) (Except RecordFault) UInt64 := do
  let fields ← get
  let text := fields.headD []
  set fields.tail
  match read Text.limit64 text with
  | .ok n => return n.toUInt64
  | .error _ => throw (.badPartId (String.ofList text))

/-- Takes the part's name off a record. -/
def takeName : StateT (List (List Char)) (Except RecordFault) String := do
  match ← get with
  | [] | [] :: _ => throw .nameMissing
  | text :: rest =>
    set rest
    let name := String.ofList text
    if !nameMarker.toList.isPrefixOf text then throw (.nameUnmarked name)
    if name.utf8ByteSize > nameCapacity then throw (.nameTooLong name)
    return name

/-- Reads the fields of a record in order. Fields past the last one are ignored. -/
def takePart : StateT (List (List Char)) (Except RecordFault) Part := do
  let id ← takeId read
  let name ← takeName
  let flashBase ← takeNumber read .flashBase
  let flashSize ← takeNumber read .flashSize
  let flashSectors ← takeNumber read .flashSectors
  let resetVectorOffset ← takeNumber read .resetVectorOffset
  let ramBase ← takeNumber read .ramBase
  let ramSize ← takeNumber read .ramSize
  let ramBufferOffset ← takeNumber read .ramBufferOffset
  let ramBufferSize ← takeNumber read .ramBufferSize
  let flag ← takeNumber read .encodedFlag
  if flashSectors = 0 then throw .noSectors
  return {
    id, name, flashBase, flashSize, flashSectors, resetVectorOffset, ramBase, ramSize,
    ramBufferOffset, ramBufferSize, encoding := if flag = 0 then .raw else .lines }

/-- Reads one record, given without blanks around it. -/
def ofRecord (record : List Char) : Except RecordFault Part :=
  (takePart read).run' ((Text.splitAtChar ',' record).map Text.trim)

/-- Reads one line of a parts file; a blank line or a comment is none. -/
def ofLine? (line : List Char) : Option (Except RecordFault Part) :=
  let record := Text.trim line
  match record with
  | [] => none
  | '#' :: _ => none
  | _ => some (ofRecord read record)

/-- Reads lines, the first of which has the number `number`. -/
def ofLines (number : Nat) : List (List Char) → List (Except Failure Part)
  | [] => []
  | line :: rest =>
    match ofLine? read line with
    | none => ofLines (number + 1) rest
    | some (.ok part) => .ok part :: ofLines (number + 1) rest
    | some (.error fault) => .error (.badRecord number fault) :: ofLines (number + 1) rest

/-- The records of a parts file in file order, with its numbers read in some way. Lines are
    counted from one. -/
def ofTextBy (text : String) : List (Except Failure Part) :=
  ofLines read 1 (Text.lines text.toList)

end

/-- The records of a parts file. -/
def ofText (text : String) : List (Except Failure Part) := ofTextBy Text.readLiteral text

end SerialIsp.Part
