import LicenseText.Text.Basic

/-!
# Blanks

The characters that count as white space, and the removal of blanks from the two ends
of a text. White space is the Unicode property `White_Space`: the tabs and line
breaks below U+0020, the space, and the spacing characters of other scripts. The zero
width space and the byte order mark do not belong to it.
-/

namespace LicenseText

/-- The Unicode property `White_Space`. -/
def isBlank (c : Char) : Bool :=
  let n := c.toNat
  (9 ≤ n && n ≤ 13) || n == 0x20 || n == 0x85 || n == 0xA0 || n == 0x1680
    || (0x2000 ≤ n && n ≤ 0x200A) || n == 0x2028 || n == 0x2029 || n == 0x202F
    || n == 0x205F || n == 0x3000

namespace Text

def trimStart (t : Text) : Text := t.dropWhile isBlank

def trimEnd (t : Text) : Text := (t.reverse.dropWhile isBlank).reverse

def trim (t : Text) : Text := (t.trimStart).trimEnd

/-- The words of a text: its maximal runs of characters that are not blank. -/
def words (t : Text) : List Text :=
  (t.splitOnP LicenseText.isBlank).filter fun word => !word.isEmpty

end Text

end LicenseText
