import LicenseText.Text.Basic

/-!
# Lines

A line ends with a line feed, and a carriage return directly before that line feed
belongs to the line's end. What follows the last line feed is a line of its own
unless it is empty; its carriage returns are ordinary characters.
-/

namespace LicenseText

namespace Text

def dropReturn (t : Text) : Text :=
  if t.getLast? = some '\r' then t.dropLast else t

def lines (t : Text) : List Text :=
  let pieces := t.splitOn '\n'
  pieces.dropLast.map dropReturn ++
    match pieces.getLast? with
    | none | some [] => []
    | some last => [last]

end Text

/-- A line of a document together with its number; the first line has number one. -/
structure NumberedLine where
  number : Nat
  text : Text
  deriving Repr, DecidableEq

namespace Text

def numberedLines (t : Text) : List NumberedLine :=
  t.lines.zipIdx.map fun (line, index) => ⟨index + 1, line⟩

end Text

end LicenseText
