import LicenseText.Html.NamedReference
import LicenseText.Text.Digits

/-!
# Reading a character reference in HTML

A reference starts with an ampersand. A number sign leads to the number of a
character, in decimal digits or, behind an `x`, in hexadecimal digits; a letter or
digit leads to a name, of which the longest one that fits is taken. What fits no
reference is plain text, the ampersand included.

Numbers that stand for no character give U+FFFD, and the numbers from 0x80 to 0x9F
stand for the characters that Windows-1252 has in their places.
-/

namespace LicenseText

namespace Html

/-- The characters of Windows-1252 from 0x80 to 0x9F. The places that it leaves free
keep their control characters. -/
def windows1252 : List Nat :=
  [0x20AC, 0x0081, 0x201A, 0x0192, 0x201E, 0x2026, 0x2020, 0x2021, 0x02C6, 0x2030,
    0x0160, 0x2039, 0x0152, 0x008D, 0x017D, 0x008F, 0x0090, 0x2018, 0x2019, 0x201C,
    0x201D, 0x2022, 0x2013, 0x2014, 0x02DC, 0x2122, 0x0161, 0x203A, 0x0153, 0x009D,
    0x017E, 0x0178]

/-- The character that stands in for one that cannot be shown. -/
def replacement : Char := '\uFFFD'

def numbered (n : Nat) : Char :=
  if n = 0 then replacement
  else if 0x80 ≤ n ∧ n ≤ 0x9F then Char.ofNat (windows1252.getD (n - 0x80) n)
  else if n.isValidChar then Char.ofNat n
  else replacement

def isNameChar (c : Char) : Bool := c.isAlphanum

/-- A reference of which a part has been read, the ampersand first. -/
inductive Reference where
  /-- The characters of a name. When a bare name is among their beginnings, `best`
  holds what the longest one stands for and the characters behind it. -/
  | name (seen : Text) (best : Option (Text × Text))
  /-- A number sign. -/
  | hash
  /-- The sign or signs that introduce the number, and its value once it has a
  digit. -/
  | number (base : Nat) (sign : Text) (value : Option Nat)
  deriving Repr, DecidableEq

/-- How a reference goes on at a character: it takes the character in, or it ends with
the given text and has or has not used the character up. -/
inductive ReferenceStep where
  | more (reference : Reference)
  | done (text : Text) (used : Bool)
  deriving Repr, DecidableEq

namespace Reference

/-- Nothing but the ampersand. -/
def start : Reference := .name [] none

/-- The text of a reference that ends where it is. -/
def close : Reference → Text
  | .name seen none => '&' :: seen
  | .name _ (some (value, behind)) => value ++ behind
  | .hash => ['&', '#']
  | .number _ sign none => '&' :: sign
  | .number _ _ (some n) => [numbered n]

def stepName (seen : Text) (best : Option (Text × Text)) (c : Char) : ReferenceStep :=
  let longer := seen ++ [c]
  if c = ';' then
    match named? seen with
    | some value => .done value true
    | none => .done (close (.name seen best)) false
  else if isNameChar c && startsName longer then
    .more <| .name longer <|
      match bareNamed? longer with
      | some value => some (value, [])
      | none => best.map fun (value, behind) => (value, behind ++ [c])
  else .done (close (.name seen best)) false

def stepNumber (base : Nat) (sign : Text) (value : Option Nat) (c : Char) :
    ReferenceStep :=
  match digitValue? base c with
  | some digit => .more (.number base sign (some (value.getD 0 * base + digit)))
  | none =>
    .done (close (.number base sign value)) (value.isSome && c == ';')

def step (reference : Reference) (c : Char) : ReferenceStep :=
  match reference with
  | .name [] best => if c = '#' then .more .hash else stepName [] best c
  | .name seen best => stepName seen best c
  | .hash =>
    if c = 'x' ∨ c = 'X' then .more (.number 16 ['#', c] none)
    else stepNumber 10 ['#'] none c
  | .number base sign value => stepNumber base sign value c

end Reference

end Html

end LicenseText
