import SerialIsp.Wire.Command
import SerialIsp.Proofs.Wire.Numbers

/-!
# Command lines read back

What the bootloader makes of a command line. `Command.read?` takes a line apart into its
letter and its arguments; it knows nothing of how lines are put together, and still reads
every line that `Command.line` writes as the command it was written for. So no two commands
share a line.
-/

namespace SerialIsp.Wire

/-! ## Reading a line -/

namespace CommandKind

/-- All kinds. -/
def all : List CommandKind := [
  .unlock, .setEcho, .writeToRam, .readMemory, .prepareForWrite, .copyRamToFlash, .go, .erase,
  .blankCheck, .readPartId, .readBootVersion, .compare, .readUid]

/-- The kind whose lines open with a letter. -/
def ofLetter? (letter : Char) : Option CommandKind := all.find? fun kind => kind.letter = letter

theorem ofLetter?_letter (kind : CommandKind) : ofLetter? kind.letter = some kind := by
  cases kind <;> rfl

end CommandKind

/-- A decimal number below 2^32. -/
def word? (text : List Char) : Option UInt32 :=
  match Text.readNumber 10 Text.limit32 text with
  | .ok n => some n.toUInt32
  | .error _ => none

/-! ## Numbers as bytes -/

theorem length_number (n : Nat) : (number n).length = (Text.digits 10 n).length := by
  rw [number, Bytes.ascii, List.length_map, Text.toList_decimal]

/-- What holds of the ten digits as bytes holds of all bytes of a number. -/
theorem forall_mem_number {motive : UInt8 → Prop}
    (h : ∀ d < 10, motive (Nat.digitChar d).toNat.toUInt8) (n : Nat) :
    ∀ c ∈ number n, motive c := by
  intro c mem
  rw [number, Bytes.ascii, Text.toList_decimal] at mem
  obtain ⟨d, digit, rfl⟩ := List.mem_map.mp mem
  exact Text.forall_mem_digits (motive := fun d => motive d.toNat.toUInt8) h n d digit

/-! ## Reading arguments -/

namespace Command

/-- The command of a kind with these arguments. -/
def ofArguments? : CommandKind → List (List Char) → Option Command
  | .unlock, [code] => if word? code = some unlockCode.toUInt32 then some .unlock else none
  | .setEcho, [enabled] => do
    let enabled ← word? enabled
    if enabled = 0 then some (.setEcho false)
    else if enabled = 1 then some (.setEcho true)
    else none
  | .writeToRam, [address, size] => do return .writeToRam (← word? address) (← word? size)
  | .readMemory, [address, size] => do return .readMemory (← word? address) (← word? size)
  | .prepareForWrite, [first, last] => do return .prepareForWrite (← word? first) (← word? last)
  | .copyRamToFlash, [flashAddress, ramAddress, size] => do
    return .copyRamToFlash (← word? flashAddress) (← word? ramAddress) (← word? size)
  | .go, [address, mode] => do
    let address ← word? address
    if mode = ['T'] then some (.go address .thumb)
    else if mode = ['A'] then some (.go address .arm)
    else none
  | .erase, [first, last] => do return .erase (← word? first) (← word? last)
  | .blankCheck, [first, last] => do return .blankCheck (← word? first) (← word? last)
  | .readPartId, [] => some .readPartId
  | .readBootVersion, [] => some .readBootVersion
  | .compare, [address1, address2, size] => do
    return .compare (← word? address1) (← word? address2) (← word? size)
  | .readUid, [] => some .readUid
  | _, _ => none

/-- The command that a line stands for, if it stands for one. -/
def read? (line : Bytes) : Option Command :=
  let text := line.take (line.length - 2)
  if line = text ++ [Bytes.cr, Bytes.lf] then
    match Text.splitAtChar ' ' (text.map fun c => Char.ofNat c.toNat) with
    | [letter] :: arguments => do ofArguments? (← CommandKind.ofLetter? letter) arguments
    | _ => none
  else none

/-! ## What a line holds -/

/-- The characters of some bytes. -/
def chars (b : Bytes) : List Char := b.map fun c => Char.ofNat c.toNat

theorem chars_number (n : Nat) : chars (number n) = Text.digits 10 n := by
  have small := Text.forall_mem_digits (motive := (·.toNat < 0x80)) (by decide) n
  rw [chars, number, Bytes.ascii, Text.toList_decimal, List.map_map]
  refine (List.map_congr_left fun c mem => ?_).trans (List.map_id _)
  show Char.ofNat c.toNat.toUInt8.toNat = c
  rw [Text.toNat_toUInt8_of_lt (small c mem), Char.ofNat_toNat]

theorem word?_digits (n : UInt32) : word? (Text.digits 10 n.toNat) = some n := by
  have read : Text.readNumber 10 Text.limit32 (Text.digits 10 n.toNat) = .ok n.toNat :=
    Text.readNumber_digits n.toNat_lt
  rw [word?, read]
  exact congrArg some UInt32.ofNat_toNat

theorem word?_number (n : UInt32) : word? (chars (number n.toNat)) = some n := by
  rw [chars_number, word?_digits]

theorem ofArguments?_arguments (c : Command) :
    ofArguments? c.kind (c.arguments.map chars) = some c := by
  cases c with
  | unlock => decide +kernel
  | setEcho enabled => cases enabled <;> decide +kernel
  | go address mode =>
    cases mode
    all_goals
      simp only [kind, arguments, List.map_cons, List.map_nil, ofArguments?, word?_number]
      rfl
  | readPartId => rfl
  | readBootVersion => rfl
  | readUid => rfl
  | _ =>
    simp only [kind, arguments, List.map_cons, List.map_nil, ofArguments?, word?_number]
    rfl

theorem space_notMem_arguments (c : Command) {argument : Bytes} (h : argument ∈ c.arguments) :
    ' ' ∉ chars argument := by
  have digits (n : Nat) : ' ' ∉ chars (number n) := by
    rw [chars_number]
    exact fun mem => Text.forall_mem_digits (motive := (· ≠ ' ')) (by decide) n ' ' mem rfl
  cases c with
  | go address mode =>
    rcases List.mem_cons.mp h with rfl | h
    · exact digits _
    · rw [List.mem_singleton.mp h]
      cases mode <;> decide
  | readPartId => cases h
  | readBootVersion => cases h
  | readUid => cases h
  | _ =>
    simp only [arguments, List.mem_cons, List.not_mem_nil, or_false] at h
    first
    | obtain rfl := h; exact digits _
    | rcases h with rfl | rfl <;> exact digits _
    | rcases h with rfl | rfl | rfl <;> exact digits _

/-- **Every command line is read as the command it was written for.** -/
theorem read?_line (c : Command) : read? c.line = some c := by
  have letter : Char.ofNat c.kind.letter.toNat.toUInt8.toNat = c.kind.letter := by
    cases c.kind <;> rfl
  have text : c.line.take (c.line.length - 2) =
      c.kind.letter.toNat.toUInt8 :: c.arguments.flatMap (space :: ·) := by
    rw [line, List.length_append]
    exact List.take_left' rfl
  -- the letter and the arguments are the fields between the spaces
  have fields : chars (c.kind.letter.toNat.toUInt8 :: c.arguments.flatMap (space :: ·)) =
      [c.kind.letter] ++ (c.arguments.map chars).flatMap (' ' :: ·) := by
    rw [chars, List.map_cons, letter, List.map_flatMap, List.flatMap_map]
    rfl
  have clean : ∀ f ∈ [c.kind.letter] :: c.arguments.map chars, ' ' ∉ f := by
    intro f mem
    rcases List.mem_cons.mp mem with rfl | mem
    · cases c.kind <;> decide
    · obtain ⟨argument, h, rfl⟩ := List.mem_map.mp mem
      exact space_notMem_arguments c h
  unfold read?
  dsimp only
  rw [text]
  refine (if_pos rfl).trans ?_
  show (match Text.splitAtChar ' ' (chars _) with
    | [letter] :: arguments => _
    | _ => none) = some c
  rw [fields, Text.splitAtChar_flatMap clean]
  dsimp only
  rw [CommandKind.ofLetter?_letter]
  exact ofArguments?_arguments c

/-- No two commands share a line. -/
theorem line_injective {c d : Command} (h : c.line = d.line) : c = d := by
  have read := read?_line c
  rw [h, read?_line d] at read
  exact (Option.some.inj read).symm

end Command
end SerialIsp.Wire
