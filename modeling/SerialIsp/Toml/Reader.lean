/-!
# Readers

A reader takes what it recognizes off the front of a text and gives its meaning with the
rest, or recognizes nothing. The grammar of TOML is predictive: wherever one of several
readings could go on, a failure of the first leaves a text that none of the others can
finish either, so a failure needs no memory of how far it had come.
-/

namespace SerialIsp.Toml

/-- Takes meanings off the front of a text. -/
abbrev Reader (α : Type) : Type := StateT (List Char) Option α

namespace Reader

variable {α : Type}

/-- The next character, left where it is. -/
def peek : Reader (Option Char) := fun cs => some (cs.head?, cs)

/-- A character that satisfies `p`. -/
def satisfy (p : Char → Bool) : Reader Char
  | c :: rest => if p c then some (c, rest) else none
  | [] => none

/-- One given character. -/
def char (c : Char) : Reader Unit := do
  let _ ← satisfy (· = c)

/-- Takes a given character if it is the next one; whether it was. -/
def skip (c : Char) : Reader Bool
  | d :: rest => some (if d = c then (true, rest) else (false, d :: rest))
  | [] => some (false, [])

/-- A given word. -/
def word (w : String) : Reader Unit := fun cs =>
  if w.toList.isPrefixOf cs then some ((), cs.drop w.toList.length) else none

/-- All characters up to the first that does not satisfy `p`. -/
def takeWhile (p : Char → Bool) : Reader (List Char) := fun cs =>
  some (cs.takeWhile p, cs.dropWhile p)

/-- At least one character, up to the first that does not satisfy `p`. -/
def takeSome (p : Char → Bool) : Reader (List Char) := do
  let cs ← takeWhile p
  if cs.isEmpty then failure else return cs

/-- A reading that may be missing. -/
def optional? (r : Reader α) : Reader (Option α) := fun cs =>
  match r cs with
  | some (a, rest) => some (some a, rest)
  | none => some (none, cs)

/-- A reading as often as possible, as long as each takes something. -/
def many (r : Reader α) : Reader (List α) := fun cs =>
  match r cs with
  | none => some ([], cs)
  | some (a, rest) =>
    if _h : rest.length < cs.length then
      (many r rest).map fun result => (a :: result.1, result.2)
    else some ([], cs)
termination_by cs => cs.length

/-- What a reader takes, beside its meaning. -/
def lexeme (r : Reader α) : Reader String := fun cs =>
  match r cs with
  | some (_, rest) => some (String.ofList (cs.take (cs.length - rest.length)), rest)
  | none => none

/-- The end of the text. -/
def atEnd : Reader Unit
  | [] => some ((), [])
  | _ => none

end Reader
end SerialIsp.Toml
