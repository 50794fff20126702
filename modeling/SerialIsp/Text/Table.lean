import SerialIsp.Text.Width

/-!
# Tables

A table in a frame of box-drawing characters: round corners, a double rule under the
header, dashed rules between rows. A column is as wide as its widest cell, with a blank on
either side.
-/

namespace SerialIsp.Text

/-- The width of each column, blanks included. -/
def columnWidths (header : List String) (rows : List (List String)) : List Nat :=
  rows.foldl (fun widths row => widths.zipWith max (row.map cellWidth)) (header.map cellWidth)
where
  /-- The width of a cell with its blanks. -/
  cellWidth (cell : String) : Nat := width cell + 2

/-- Characters repeated. -/
def repeated (n : Nat) (c : Char) : String := String.ofList (List.replicate n c)

/-- A rule across the table, of `line` characters, with other characters at its ends and
    between columns. -/
def rule (widths : List Nat) (left line between right : Char) : String :=
  left.toString ++
    String.intercalate between.toString (widths.map fun n => repeated n line) ++ right.toString

/-- A row of cells. -/
def tableRow (widths : List Nat) (cells : List String) : String :=
  "│" ++ String.intercalate "┆" (cells.zipWith padded widths) ++ "│"
where
  /-- A cell with blanks up to the width of its column. -/
  padded (cell : String) (n : Nat) : String := " " ++ cell ++ repeated (n - width cell - 1) ' '

/-- The lines of a table. -/
def tableLines (header : List String) (rows : List (List String)) : List String :=
  let widths := columnWidths header rows
  [rule widths '╭' '─' '┬' '╮', tableRow widths header, rule widths '╞' '═' '╪' '╡'] ++
    (rows.map (tableRow widths)).intersperse (rule widths '├' '╌' '┼' '┤') ++
    [rule widths '╰' '─' '┴' '╯']

/-- A table, without a line end behind it. -/
def table (header : List String) (rows : List (List String)) : String :=
  String.intercalate "\n" (tableLines header rows)

end SerialIsp.Text
