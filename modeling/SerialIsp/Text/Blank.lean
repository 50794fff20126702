/-!
# Blanks, lines and fields

The white space of Unicode, trimming it, and cutting a text into lines or into fields at
a separator. A line ends at a line feed, and a carriage return right before that line feed
belongs to the line end.
-/

namespace SerialIsp.Text

/-- The characters with the Unicode property `White_Space`. -/
def isBlank (c : Char) : Bool :=
  let n := c.toNat
  (0x09 ≤ n && n ≤ 0x0D) || n == 0x20 || n == 0x85 || n == 0xA0 || n == 0x1680 ||
    (0x2000 ≤ n && n ≤ 0x200A) || n == 0x2028 || n == 0x2029 || n == 0x202F ||
    n == 0x205F || n == 0x3000

/-- Drops blanks from the end. -/
def trimEnd (cs : List Char) : List Char := (cs.reverse.dropWhile isBlank).reverse

/-- Drops blanks from both ends. -/
def trim (cs : List Char) : List Char := trimEnd (cs.dropWhile isBlank)

/-- Cuts at every separator: one more field than there are separators. -/
def splitAtChar (sep : Char) : List Char → List (List Char)
  | [] => [[]]
  | c :: rest =>
    if c = sep then [] :: splitAtChar sep rest
    else
      match splitAtChar sep rest with
      | [] => [[c]]
      | field :: fields => (c :: field) :: fields

/-- Drops one carriage return from the end. -/
def dropReturn (cs : List Char) : List Char :=
  if cs.getLast? = some '\r' then cs.dropLast else cs

/-- The lines of a text. What follows the last line feed is a line of its own unless it is
    empty, and keeps a trailing carriage return. -/
def lines (cs : List Char) : List (List Char) :=
  match (splitAtChar '\n' cs).reverse with
  | [] => []
  | last :: before =>
    (before.reverse.map dropReturn) ++ (if last.isEmpty then [] else [last])

end SerialIsp.Text
