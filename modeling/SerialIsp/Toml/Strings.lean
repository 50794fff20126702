import SerialIsp.Text.Radix
import SerialIsp.Toml.Reader

/-!
# Blanks, comments and strings

Strings come in double quotes, where a backslash opens an escape, and in single quotes,
where nothing does; either kind can span lines when its quotes are tripled. Control
characters stand nowhere but in escapes, the tab and line ends apart.
-/

namespace SerialIsp.Toml

open Reader

/-- A blank within a line. -/
def isBlank (c : Char) : Bool := c = ' ' || c = '\t'

/-- A character that may stand in a comment or a string. -/
def isText (c : Char) : Bool := c = '\t' || (0x20 ≤ c.toNat && c.toNat ≠ 0x7F)

/-- Blanks within a line. -/
def blanks : Reader Unit := do
  let _ ← takeWhile isBlank

/-- A line end. -/
def newline : Reader Unit := do
  let _ ← skip '\r'
  char '\n'

/-- A comment, up to the end of its line. -/
def comment : Reader Unit := do
  char '#'
  let _ ← takeWhile isText

/-- The rest of a line behind a value or a header. -/
def lineTail : Reader Unit := do
  blanks
  let _ ← optional? comment
  newline <|> atEnd

/-- Blanks, line ends and comments, as they may stand inside an array. -/
def gap : Reader Unit := do
  let _ ← many (do
    let _ ← takeSome isBlank)
  let _ ← many do
    let _ ← optional? comment
    newline
    blanks

/-! ## Escapes -/

/-- A character by its number in exactly `n` hexadecimal digits. -/
def hexCharacter (n : Nat) : Reader Char := fun cs =>
  let digits := cs.take n
  if digits.length = n then
    match Text.readDigits 16 Text.limit32 0 digits with
    | .ok value =>
      if value.isValidChar then some (Char.ofNat value, cs.drop n) else none
    | .error _ => none
  else none

/-- An escape, from its backslash on. -/
def escape : Reader Char := do
  char '\\'
  match ← satisfy fun _ => true with
  | 'b' => return '\x08'
  | 't' => return '\t'
  | 'n' => return '\n'
  | 'f' => return '\x0c'
  | 'r' => return '\r'
  | '"' => return '"'
  | '\\' => return '\\'
  | 'u' => hexCharacter 4
  | 'U' => hexCharacter 8
  | _ => failure

/-! ## Strings on one line -/

/-- The content of a string in double quotes, one piece. -/
def basicPiece : Reader (List Char) := do
  match ← peek with
  | some '\\' => return [← escape]
  | _ => takeSome fun c => isText c && c ≠ '"' && c ≠ '\\'

/-- A string in double quotes. -/
def basicString : Reader String := do
  char '"'
  let pieces ← many basicPiece
  char '"'
  return String.ofList pieces.flatten

/-- A string in single quotes. -/
def literalString : Reader String := do
  char '\''
  let content ← takeWhile fun c => isText c && c ≠ '\''
  char '\''
  return String.ofList content

/-! ## Strings over several lines -/

/-- One or two quotes that do not end the string, because something else follows them. -/
def innerQuotes (quote : Char) : Reader (List Char) := do
  let quotes ← takeSome (· = quote)
  if quotes.length ≤ 2 ∧ (← peek).isSome then return quotes else failure

/-- The closing quotes: three, with one or two that belong to the string before them. -/
def closingQuotes (quote : Char) : Reader (List Char) := do
  let quotes ← takeSome (· = quote)
  if 3 ≤ quotes.length ∧ quotes.length ≤ 5 then return quotes.drop 3 else failure

/-- A line end inside a string, which counts as a line feed. -/
def lineBreak : Reader (List Char) := do
  newline
  return ['\n']

/-- A backslash at the end of a line, which takes all blanks and line ends after it out of
    the string. -/
def joinedLines : Reader (List Char) := do
  char '\\'
  blanks
  newline
  let _ ← many ((do let _ ← takeSome isBlank) <|> newline)
  return []

/-- One piece of a string over several lines in double quotes. -/
def longBasicPiece : Reader (List Char) := do
  match ← peek with
  | some '\\' => joinedLines <|> (do return [← escape])
  | some '"' => innerQuotes '"'
  | some c => if isText c then takeSome fun c => isText c && c ≠ '"' && c ≠ '\\' else lineBreak
  | none => failure

/-- One piece of a string over several lines in single quotes. -/
def longLiteralPiece : Reader (List Char) := do
  match ← peek with
  | some '\'' => innerQuotes '\''
  | some c => if isText c then takeSome fun c => isText c && c ≠ '\'' else lineBreak
  | none => failure

/-- A string over several lines. A line end right after the opening quotes is left out. -/
def longString (quote : Char) (piece : Reader (List Char)) : Reader String := do
  word (String.ofList [quote, quote, quote])
  let _ ← optional? newline
  let pieces ← many piece
  let last ← closingQuotes quote
  return String.ofList (pieces.flatten ++ last)

/-- A string of any kind. Three quotes always open a string over several lines. -/
def string : Reader String := fun cs =>
  match cs with
  | '"' :: '"' :: '"' :: _ => longString '"' longBasicPiece cs
  | '"' :: _ => basicString cs
  | '\'' :: '\'' :: '\'' :: _ => longString '\'' longLiteralPiece cs
  | _ => literalString cs

end SerialIsp.Toml
