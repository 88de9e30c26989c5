import LicenseText.Text.Basic

/-!
# Byte strings

The names of files, and the paths made of names, are byte strings. Most of them spell a
text in UTF-8, but a file system takes others as well. `text?` is the text that a byte
string spells, if it spells one. `shown` makes a text of every byte string: what spells no
character is replaced, a whole broken character at a time.
-/

namespace LicenseText

abbrev Bytes := List UInt8

def Text.bytes (t : Text) : Bytes := t.flatMap String.utf8EncodeChar

/-- The text that bytes spell in UTF-8, if they do. -/
def decodeUtf8? (bytes : ByteArray) : Option Text :=
  (String.fromUTF8? bytes).map String.toList

namespace Bytes

def text? (b : Bytes) : Option Text := decodeUtf8? b.toByteArray

/-- Whether a byte string comes no later than another in the order of their bytes. -/
def sortsBefore : Bytes → Bytes → Bool := comesBefore UInt8.toNat

/-! ## Byte strings as they are shown -/

/-- The character with which a byte string starts, if it starts with one. -/
def firstChar? (b : Bytes) : Option Char := b.toByteArray.utf8DecodeChar? 0

/-- The number of bytes of a character that starts with the given byte, or zero if none
does. -/
def charLength (first : UInt8) : Nat :=
  if first < 0x80 then 1
  else if first < 0xC2 then 0
  else if first < 0xE0 then 2
  else if first < 0xF0 then 3
  else if first < 0xF5 then 4
  else 0

def isContinuation (byte : UInt8) : Bool := 0x80 ≤ byte && byte ≤ 0xBF

/-- Whether a character that starts with `first` may go on with `second`. -/
def mayFollow (first second : UInt8) : Bool :=
  isContinuation second &&
    match first with
    | 0xE0 => 0xA0 ≤ second
    | 0xED => second ≤ 0x9F
    | 0xF0 => 0x90 ≤ second
    | 0xF4 => second ≤ 0x8F
    | _ => true

/-- The number of bytes with which a broken character begins like a whole one, and at least
the first byte. -/
def brokenLength (first : UInt8) : Bytes → Nat
  | [] => 1
  | second :: rest =>
    let length := charLength first
    if 2 ≤ length && mayFollow first second then
      2 + ((rest.take (length - 3)).takeWhile isContinuation).length
    else 1

/-- What is shown of a byte string behind the first `skip` bytes. -/
def shownFrom : Nat → Bytes → Text
  | _, [] => []
  | skip + 1, _ :: rest => shownFrom skip rest
  | 0, first :: rest =>
    match firstChar? (first :: rest) with
    | some c => c :: shownFrom (c.utf8Size - 1) rest
    | none => '\ufffd' :: shownFrom (brokenLength first rest - 1) rest

/-- A byte string as it is shown, with a replacement for each part that is no character. -/
def shown (b : Bytes) : Text := shownFrom 0 b

end Bytes

end LicenseText
