import LicenseText.Markup
import LicenseText.Xml.Event
import LicenseText.Xml.Reference

/-!
# Reading an XML document

Comments, declarations and processing instructions are comments of the document;
text and character data are its strings. Text is reported with its references
decoded, or as it stands when one of them is not known.

The line of an event is the line of its position in the content. A byte order mark at
the start of the content has no place in positions, so in a document with such a mark
the lines, and the slices that hold the instructions, are taken that many bytes
early.
-/

namespace LicenseText

namespace Xml

/-- What stands between the delimiters of the instruction at the given positions. A
slice that has no such delimiters is reported as a whole. -/
def instructionBody (content : Text) (start stop : Nat) : Text :=
  let raw := ((content.byteSlice? start stop).getD []).trim
  match ("<?".toList.isPrefixOf? raw).bind "?>".toList.isSuffixOf? with
  | some inside => inside
  | none => raw

/-- The item that an event on the given line amounts to, if any. -/
def itemOf? (content : Text) (withStrings : Bool) (event : Event) (line : Nat) :
    Option Item :=
  match event.kind with
  | .comment inside => some (.comment (Markup.comment inside line))
  | .instruction =>
    some (.comment (Markup.comment (instructionBody content event.start event.stop) line))
  | .text raw =>
    if withStrings then (Markup.text? ((decode? raw).getD raw) line).map .string else none
  | .characterData inside =>
    if withStrings then (Markup.text? inside line).map .string else none
  | .markup => none

/-- A document whose events are read in part: the place reached, and the items found,
newest first. -/
structure Progress where
  cursor : LineCursor
  found : List Item

def Progress.step (content : Text) (withStrings : Bool) (progress : Progress)
    (event : Event) : Progress :=
  let cursor := progress.cursor.advance event.start
  ⟨cursor, (itemOf? content withStrings event cursor.line).toList ++ progress.found⟩

def itemsOf (content : Text) (withStrings : Bool) (events : List Event) : List Item :=
  (events.foldl (Progress.step content withStrings) ⟨.start content, []⟩).found.reverse

/-- The items of a document in the order in which they stand. -/
def read (content : Text) (withStrings : Bool) : Except Failure (List Item) :=
  (events content).map (itemsOf content withStrings)

end Xml

end LicenseText
