import LicenseText.Item
import LicenseText.Text.Blank

/-!
# Comments and text of markup

How a node of a markup document becomes an item. Each line of a comment node is a
line of the comment's body, so the span of the comment is the span of the node. Text
loses the blanks at its ends, and text of blanks alone is no item.
-/

namespace LicenseText

namespace Markup

/-- The comment with the given text whose first line is `line`. -/
def comment (raw : Text) (line : Nat) : Comment :=
  let body := (raw.splitOn '\n').map Text.trim
  .written body line (line + body.length - 1)

/-- The text that starts on `line`, unless it is blank. Its literal is on the line of
its first character that is not a blank. -/
def text? (raw : Text) (line : Nat) : Option StringLiteral :=
  if raw.trim.isEmpty then none
  else some ⟨raw.trim, line + Text.breaks (raw.takeWhile isBlank)⟩

end Markup

end LicenseText
