/-!
# Text

A text is the list of its characters. Every rule of the library is stated on such
lists, so that prefixes, suffixes and occurrences are those of `List`; strings appear
only where text enters or leaves the program.

This file holds the search for an occurrence inside a text and the count of line
breaks. `before?` returns what stands in front of the first occurrence, and
`contains` decides whether there is one.
-/

namespace LicenseText

abbrev Text := List Char

/-- Whether a list comes no later than another in the order of the numbers of their
elements. -/
def comesBefore {α : Type} (number : α → Nat) : List α → List α → Bool
  | [], _ => true
  | _ :: _, [] => false
  | x :: s, y :: t =>
    number x < number y || (number x == number y && comesBefore number s t)

namespace Text

def breaks (t : Text) : Nat := t.count '\n'

/-- Whether `part` occurs in a text as a contiguous run of characters. -/
def contains (part : Text) : Text → Bool
  | [] => part.isPrefixOf []
  | c :: rest => part.isPrefixOf (c :: rest) || contains part rest

/-- What stands before the first occurrence of `part`, where `seen` holds, newest
first, the characters already passed. -/
def beforeFrom? (part seen : Text) : Text → Option Text
  | [] => if part.isPrefixOf [] then some seen.reverse else none
  | c :: rest =>
    if part.isPrefixOf (c :: rest) then some seen.reverse
    else beforeFrom? part (c :: seen) rest

/-- What stands before the first occurrence of `part` in `t`, if it occurs. -/
def before? (part t : Text) : Option Text := beforeFrom? part [] t

/-- Whether a text comes no later than another in the order of their characters. -/
def sortsBefore : Text → Text → Bool := comesBefore Char.toNat

/-- The decimal digits of a number. -/
def ofNat (n : Nat) : Text := Nat.toDigits 10 n

def joinLines (lines : List Text) : Text := ['\n'].intercalate lines

end Text

end LicenseText
