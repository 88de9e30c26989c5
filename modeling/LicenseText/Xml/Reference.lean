import LicenseText.Text.Digits

/-!
# References in XML text

A reference stands between an ampersand and a semicolon. It is one of five names, or
the number of a character, in decimal digits behind `#` or in hexadecimal digits
behind `#x`. A text with any other reference, or with an ampersand that no semicolon
closes before the next ampersand, has no decoded form.
-/

namespace LicenseText

namespace Xml

/-- The character of a code point that is neither zero nor a surrogate. -/
def character? (n : Nat) : Option Char :=
  if n ≠ 0 ∧ n.isValidChar then some (Char.ofNat n) else none

/-- What the reference with the given name stands for. -/
def expand? (name : Text) : Option Char :=
  match name with
  | '#' :: 'x' :: digits => (number? 16 digits).bind character?
  | '#' :: digits => (number? 10 digits).bind character?
  | _ =>
    [("lt".toList, '<'), ("gt".toList, '>'), ("amp".toList, '&'),
      ("apos".toList, '\''), ("quot".toList, '"')].lookup name

/-- Decodes a text. Here `out` is what has been decoded, newest first, and `name?`
the name, newest first, of a reference that has begun. -/
def decodeFrom? (out : Text) (name? : Option Text) : Text → Option Text
  | [] => if name?.isSome then none else some out.reverse
  | c :: rest =>
    match name? with
    | none => if c = '&' then decodeFrom? out (some []) rest
        else decodeFrom? (c :: out) none rest
    | some name =>
      if c = '&' then none
      else if c = ';' then
        match expand? name.reverse with
        | some d => decodeFrom? (d :: out) none rest
        | none => none
      else decodeFrom? out (some (c :: name)) rest

/-- A text with its references decoded, if every one of them is known. -/
def decode? (t : Text) : Option Text := decodeFrom? [] none t

end Xml

end LicenseText
