import SerialIsp.Proofs.Dialogue.Lines
import SerialIsp.Proofs.Wire.Orders

/-!
# Streams of commands

What stands in a command line, and why no two sequences of commands sound alike.

`Argument` says what an argument is, apart from its bytes, and `Argument.text` how it is spelled.
All of these texts are visible ASCII characters, so the spaces between them and the line end are
the only ones in a line, and the fields between the spaces are the letter and the arguments. A
command line is then the first line of whatever it opens (`firstLine_line`). As an input has one
first line at most, and no two commands share a line, the front of a stream tells its first command
and what comes behind it (`line_append_inj`).
-/

namespace SerialIsp

/-- An input opens with one line only. -/
theorem FirstLine.unique {text text' input rest rest' : Bytes} (first : FirstLine text input rest)
    (first' : FirstLine text' input rest') : text = text' ∧ rest = rest' := by
  let room := text.length + text'.length
  have one : (Dialogue.lineFrom [] room input).close = .done text rest :=
    Dialogue.lineFrom_done.mpr ⟨text, first, Nat.le_add_right .., rfl⟩
  have other : (Dialogue.lineFrom [] room input).close = .done text' rest' :=
    Dialogue.lineFrom_done.mpr ⟨text', first', Nat.le_add_left .., rfl⟩
  rw [one] at other
  exact Close.done.inj other

namespace Text

theorem decimal_eq_toString (n : Nat) : decimal n = toString n := by
  have same : digits 10 n = Nat.toDigits 10 n := by
    induction n using Nat.strongRecOn with
    | ind n ih =>
      by_cases small : n < 10
      · rw [digits_of_lt small, Nat.toDigits_of_lt_base small]
      · have large := Nat.not_lt.mp small
        rw [digits_of_le large, Nat.toDigits_of_base_le (by decide) large, ih (n / 10) (by omega)]
  rw [decimal, same, Nat.toString_eq_repr, Nat.repr_eq_ofList_toDigits]

end Text

namespace Wire

/-! ## Arguments -/

/-- What a command carries. -/
inductive Argument where
  | word (n : UInt32)
  | flag (b : Bool)
  | mode (m : ExecutionMode)
  /-- The code that unlocks. -/
  | code
  deriving DecidableEq, Repr

namespace Argument

/-- How an argument is spelled: numbers in decimal, a flag as a digit, a mode by its letter. -/
def text : Argument → String
  | word n => toString n.toNat
  | flag false => "0"
  | flag true => "1"
  | mode .thumb => "T"
  | mode .arm => "A"
  | code => "23130"

def bytes (a : Argument) : Bytes := Bytes.ascii a.text

end Argument

/-- A character of ASCII that is seen. -/
def Visible (c : UInt8) : Prop := 0x20 < c ∧ c < 0x7F

instance (c : UInt8) : Decidable (Visible c) := inferInstanceAs (Decidable (_ ∧ _))

theorem Argument.number_word (n : UInt32) : number n.toNat = (word n).bytes := by
  rw [number, Text.decimal_eq_toString]
  rfl

theorem Argument.visible (a : Argument) : ∀ c ∈ a.bytes, Visible c := by
  cases a with
  | word n =>
    rw [← number_word]
    exact forall_mem_number (by decide) n.toNat
  | flag b => cases b <;> decide +kernel
  | mode m => cases m <;> decide +kernel
  | code => decide +kernel

namespace Command

/-- What a command carries, in the order of its declaration. -/
def given : Command → List Argument
  | .unlock => [.code]
  | .setEcho enabled => [.flag enabled]
  | .writeToRam address size => [.word address, .word size]
  | .readMemory address size => [.word address, .word size]
  | .prepareForWrite first last => [.word first, .word last]
  | .copyRamToFlash flashAddress ramAddress size =>
    [.word flashAddress, .word ramAddress, .word size]
  | .go address mode => [.word address, .mode mode]
  | .erase first last => [.word first, .word last]
  | .blankCheck first last => [.word first, .word last]
  | .readPartId => []
  | .readBootVersion => []
  | .compare address1 address2 size => [.word address1, .word address2, .word size]
  | .readUid => []

theorem arguments_eq (c : Command) : c.arguments = c.given.map Argument.bytes := by
  cases c with
  | unlock => decide +kernel
  | setEcho enabled => cases enabled <;> decide +kernel
  | go address mode =>
    cases mode <;> simp only [arguments, given, Argument.number_word, List.map_cons] <;> rfl
  | _ => simp only [arguments, given, Argument.number_word, List.map_cons, List.map_nil]

/-! ## One line -/

/-- The fields of a line: its letter, and the arguments. -/
def fields (c : Command) : List Bytes :=
  [c.kind.letter.toNat.toUInt8] :: c.given.map Argument.bytes

theorem visible_fields (c : Command) : ∀ field ∈ c.fields, ∀ d ∈ field, Visible d := by
  rw [fields, List.forall_mem_cons, List.forall_mem_map]
  refine ⟨?_, fun a _ => a.visible⟩
  cases c.kind <;> decide +kernel

/-- The line without its end. -/
def text (c : Command) : Bytes := [space].intercalate c.fields

theorem intercalate_space (field : Bytes) (fields : List Bytes) :
    [space].intercalate (field :: fields) = field ++ fields.flatMap (space :: ·) := by
  induction fields generalizing field with
  | nil => simp
  | cons next fields ih => rw [List.intercalate_cons_cons, ih]; simp

theorem line_eq (c : Command) : c.line = c.text ++ [Bytes.cr, Bytes.lf] := by
  rw [line, arguments_eq, text, fields, intercalate_space]
  rfl

/-- The characters of a line are seen, or are its spaces. -/
theorem mem_text {c : Command} {d : UInt8} (mem : d ∈ c.text) : Visible d ∨ d = space := by
  have visible := c.visible_fields
  rw [text, fields, intercalate_space] at mem
  rw [fields, List.forall_mem_cons] at visible
  rcases List.mem_append.mp mem with letter | rest
  · exact .inl (visible.1 d letter)
  · obtain ⟨argument, given, mem⟩ := List.mem_flatMap.mp rest
    rcases List.mem_cons.mp mem with rfl | mem
    · exact .inr rfl
    · exact .inl (visible.2 argument given d mem)

theorem unbroken_text (c : Command) : Unbroken c.text := by
  intro d mem
  rcases mem_text mem with visible | rfl
  · constructor
    all_goals
      rintro rfl
      exact absurd visible (by decide)
  · decide

theorem ascii_line (c : Command) : ∀ d ∈ c.line, d < 0x80 := by
  intro d mem
  rw [line_eq] at mem
  rcases List.mem_append.mp mem with inside | ending
  · rcases mem_text inside with visible | rfl
    · exact Nat.lt_trans visible.2 (by decide)
    · decide
  · have ends : ∀ d ∈ [Bytes.cr, Bytes.lf], d < 0x80 := by decide +kernel
    exact ends d ending

/-- **The fields between the spaces** are the letter and the arguments. -/
theorem splitOn_text (c : Command) : c.text.splitOn space = c.fields := by
  refine List.splitOn_intercalate space (fun field mem spaced => ?_) (List.cons_ne_nil _ _)
  exact absurd (c.visible_fields field mem space spaced) (by decide)

/-! ## Many lines -/

theorem firstLine_line (c : Command) (rest : Bytes) : FirstLine c.text (c.line ++ rest) rest := by
  rw [line_eq]
  exact firstLine_of_mark c.unbroken_text (.crlf rest)

/-- **Command lines are a prefix code.** -/
theorem line_append_inj {c d : Command} {rest rest' : Bytes}
    (same : c.line ++ rest = d.line ++ rest') : c = d ∧ rest = rest' := by
  have first := c.firstLine_line rest
  rw [same] at first
  obtain ⟨text, left⟩ := first.unique (d.firstLine_line rest')
  refine ⟨line_injective ?_, left⟩
  rw [line_eq, line_eq, text]

theorem line_ne_nil (c : Command) : c.line ≠ [] := List.cons_ne_nil _ _

theorem eq_of_flatMap_line {cs ds : List Command} (same : cs.flatMap line = ds.flatMap line) :
    cs = ds := by
  induction cs generalizing ds with
  | nil =>
    cases ds with
    | nil => rfl
    | cons d ds => exact absurd (List.append_eq_nil_iff.mp same.symm).1 d.line_ne_nil
  | cons c cs ih =>
    cases ds with
    | nil => exact absurd (List.append_eq_nil_iff.mp same).1 c.line_ne_nil
    | cons d ds =>
      rw [List.flatMap_cons, List.flatMap_cons] at same
      obtain ⟨rfl, rest⟩ := line_append_inj same
      rw [ih rest]

/-- **Command lines are uniquely decodable.** A stream of them stands for one sequence of commands
    only. Every line is ASCII and has a line end nowhere but at its end, and the fields between its
    spaces are its letter and its arguments in the order of their declaration. -/
theorem lines_decodable :
    (Function.Injective fun cs : List Command => cs.flatMap line) ∧
    ∀ c : Command, (∀ d ∈ c.line, d < 0x80) ∧ ∃ text,
      c.line = text ++ [Bytes.cr, Bytes.lf] ∧ Unbroken text ∧
      text.splitOn space = [c.kind.letter.toNat.toUInt8] :: c.given.map Argument.bytes := by
  constructor
  · exact fun _ _ => eq_of_flatMap_line
  · exact fun c => ⟨c.ascii_line, c.text, c.line_eq, c.unbroken_text, c.splitOn_text⟩

example : (Command.go 512 .thumb).text.splitOn space = ["G", "512", "T"].map Bytes.ascii := by
  decide +kernel

end Command
end Wire
end SerialIsp
