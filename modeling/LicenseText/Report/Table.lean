import LicenseText.Text.Width

/-!
# Tables

A table with a row of headings, drawn with lines. Every column is as wide as its widest
line, and a cell has a space at either side. A cell with several lines makes its row as
high as it has lines.

On a terminal the program narrows the columns of a table that is wider than the terminal,
and wraps their cells. This is left out: the tables are those that it writes to a file or
to another program.
-/

namespace LicenseText

structure Cell where
  text : Text
  alignRight : Bool := false
  deriving Repr, DecidableEq

namespace Cell

def lines (cell : Cell) : List Text := cell.text.splitOn '\n'

/-- The width of the widest line. -/
def width (cell : Cell) : Nat := (cell.lines.map Text.width).foldl max 0

/-- A line of a cell, filled up to the width of its column. -/
def pad (cell : Cell) (width : Nat) (line : Text) : Text :=
  let gap := List.replicate (width - line.width) ' '
  ' ' :: (if cell.alignRight then gap ++ line else line ++ gap) ++ [' ']

end Cell

namespace Table

def rule (left fill cross right : Char) (widths : List Nat) : Text :=
  left :: [cross].intercalate (widths.map fun width => List.replicate (width + 2) fill)
    ++ [right]

def rowLines (widths : List Nat) (row : List Cell) : List Text :=
  let height := (row.map fun cell => cell.lines.length).foldl max 1
  (List.range height).map fun index =>
    '│' :: ['┆'].intercalate
      ((row.zip widths).map fun (cell, width) =>
        cell.pad width ((cell.lines[index]?).getD []))
      ++ ['│']

def columnWidths (rows : List (List Cell)) : List Nat :=
  rows.foldl
    (fun widths row =>
      (List.range (max widths.length row.length)).map fun column =>
        max (widths[column]?.getD 0) ((row[column]?.map Cell.width).getD 0))
    []

def lines (headings : List Cell) (rows : List (List Cell)) : List Text :=
  let widths := columnWidths (headings :: rows)
  let between := rule '├' '╌' '┼' '┤' widths
  [rule '┌' '─' '┬' '┐' widths] ++ rowLines widths headings
    ++ [rule '╞' '═' '╪' '╡' widths]
    ++ [between].intercalate (rows.map (rowLines widths))
    ++ [rule '└' '─' '┴' '┘' widths]

def render (headings : List Cell) (rows : List (List Cell)) : Text :=
  (lines headings rows).flatMap fun line => line ++ ['\n']

end Table

end LicenseText
