/-!
# Sets of characters

A property that a character has or lacks, written down as the ranges of code points that
have it. The tables of this library are such sets.
-/

namespace SerialIsp.Text

/-- A set of characters: closed ranges of code points, in ascending order. -/
abbrev CodePoints := List (Nat × Nat)

/-- Whether a character is in the set. -/
def CodePoints.has (set : CodePoints) (c : Char) : Bool :=
  set.any fun range => range.1 ≤ c.toNat && c.toNat ≤ range.2

end SerialIsp.Text
