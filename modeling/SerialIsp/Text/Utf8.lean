import SerialIsp.Bytes

/-!
# Bytes as text

UTF-8 read one byte at a time. Between characters the reader owes nothing; after a lead
byte it owes up to three continuation bytes, the first of which may be confined to a
narrower range so that no character has two spellings and no surrogate is spelled.

Two readings share that reader. `lossy` accepts any bytes: each longest run that starts a
character but cannot finish it becomes one replacement character, and the byte that broke
it is read afresh. `decode?` accepts only bytes without such a run.
-/

namespace SerialIsp.Text.Utf8

/-- A character begun but not finished: the bits read so far, how many bytes are owed after
    the next one, and the range the next one must lie in. -/
structure Pending where
  bits : Nat
  owed : Nat
  low : UInt8
  high : UInt8
  deriving DecidableEq, Repr

/-- What a byte read between characters does. -/
inductive Lead where
  /-- It is a character by itself. -/
  | whole (c : Char)
  /-- It begins a longer character. -/
  | begins (p : Pending)
  /-- No character begins with it. -/
  | stray
  deriving DecidableEq, Repr

/-- Classifies a byte read between characters. -/
def lead (b : UInt8) : Lead :=
  let n := b.toNat
  if n < 0x80 then .whole (Char.ofNat n)
  else if n < 0xC2 then .stray
  else if n < 0xE0 then .begins ⟨n % 32, 0, 0x80, 0xBF⟩
  else if n = 0xE0 then .begins ⟨n % 16, 1, 0xA0, 0xBF⟩
  else if n = 0xED then .begins ⟨n % 16, 1, 0x80, 0x9F⟩
  else if n < 0xF0 then .begins ⟨n % 16, 1, 0x80, 0xBF⟩
  else if n = 0xF0 then .begins ⟨n % 8, 2, 0x90, 0xBF⟩
  else if n < 0xF4 then .begins ⟨n % 8, 2, 0x80, 0xBF⟩
  else if n = 0xF4 then .begins ⟨n % 8, 2, 0x80, 0x8F⟩
  else .stray

/-- One step's outcome: what was completed, and what is now begun. A completed `none` is a
    malformed run. -/
structure Step where
  completed : List (Option Char)
  pending : Option Pending
  deriving DecidableEq, Repr

/-- Reads a byte between characters. -/
def Step.fresh (b : UInt8) : Step :=
  match lead b with
  | .whole c => ⟨[some c], none⟩
  | .begins p => ⟨[], some p⟩
  | .stray => ⟨[none], none⟩

/-- Reads a byte inside a character, or afresh after the malformed run it ends. -/
def Step.within (p : Pending) (b : UInt8) : Step :=
  if p.low ≤ b ∧ b ≤ p.high then
    let bits := p.bits * 64 + b.toNat % 64
    match p.owed with
    | 0 => ⟨[some (Char.ofNat bits)], none⟩
    | owed + 1 => ⟨[], some ⟨bits, owed, 0x80, 0xBF⟩⟩
  else
    let next := Step.fresh b
    ⟨none :: next.completed, next.pending⟩

/-- The characters of a byte string, `none` standing for each malformed run. -/
def scan : Option Pending → Bytes → List (Option Char)
  | none, [] => []
  | some _, [] => [none]
  | pending, b :: rest =>
    let step := match pending with
      | none => Step.fresh b
      | some p => Step.within p b
    step.completed ++ scan step.pending rest

/-- The character that stands for bytes which are no text. -/
def replacement : Char := '\uFFFD'

/-- Reads any bytes as characters, malformed runs as replacement characters. -/
def lossyChars (b : Bytes) : List Char := (scan none b).map fun c => c.getD replacement

/-- Reads any bytes as text, malformed runs as replacement characters. -/
def lossy (b : Bytes) : String := String.ofList (lossyChars b)

/-- Reads well-formed bytes as characters, and nothing else. -/
def decode? (b : Bytes) : Option (List Char) := (scan none b).mapM id

end SerialIsp.Text.Utf8
