import LicenseText.Delimited.Block
import LicenseText.Delimited.Quoted
import LicenseText.Text.Blank

/-!
# Reading a delimited document

The lines of a document lose the blanks at their ends, and the lines that are then
empty are left out, though they keep their numbers. What remains is read in order:
the comment that a line completes comes before the strings found on that line.
-/

namespace LicenseText

namespace Delimited

/-- The lines that are read: trimmed, and not empty. -/
def readableLines (content : Text) : List NumberedLine :=
  (content.numberedLines.map fun line => ⟨line.number, line.text.trim⟩).filter
    fun line => !line.text.isEmpty

/-- A document read in part: the open block, and the items found, newest first. -/
structure Progress where
  block : BlockState
  found : List Item

namespace Progress

def start : Progress := ⟨.outside, []⟩

/-- The strings of a line that are reported. -/
def reportedStrings (delimiters : DelimitedSyntax) (withStrings : Bool)
    (line : NumberedLine) : List Item :=
  if withStrings then (Quoted.strings delimiters.quotes line).map Item.string else []

def step (delimiters : DelimitedSyntax) (withStrings : Bool) (progress : Progress)
    (line : NumberedLine) : Progress :=
  let (block, comment?) := progress.block.feed delimiters line
  let items := (comment?.map Item.comment).toList
    ++ reportedStrings delimiters withStrings line
  ⟨block, items.reverse ++ progress.found⟩

/-- All items, once the document has ended. -/
def finish (policy : OpenBlockPolicy) (progress : Progress) : List Item :=
  progress.found.reverse ++ ((progress.block.finish? policy).map Item.comment).toList

end Progress

/-- The items of a document in the order in which they are found. -/
def read (delimiters : DelimitedSyntax) (withStrings : Bool) (policy : OpenBlockPolicy)
    (content : Text) : List Item :=
  ((readableLines content).foldl (Progress.step delimiters withStrings) .start).finish
    policy

end Delimited

end LicenseText
