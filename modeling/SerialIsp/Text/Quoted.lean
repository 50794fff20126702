import SerialIsp.Text.Radix
import SerialIsp.Text.Glyph

/-!
# Quoted text

How a message shows a text it received: between double quotes, on one line, with every
character that would not show as itself replaced by an escape.
-/

namespace SerialIsp.Text

/-- A character as it stands inside a quoted text. -/
def escapeChar (c : Char) : List Char :=
  match c with
  | '\x00' => ['\\', '0']
  | '\t' => ['\\', 't']
  | '\n' => ['\\', 'n']
  | '\r' => ['\\', 'r']
  | '"' => ['\\', '"']
  | '\\' => ['\\', '\\']
  | c => if hasGlyph c then [c] else "\\u\x7b".toList ++ digits 16 c.toNat ++ ['\x7d']

/-- A text between double quotes. -/
def quoted (s : String) : String :=
  String.ofList ('"' :: s.toList.flatMap escapeChar ++ ['"'])

end SerialIsp.Text
