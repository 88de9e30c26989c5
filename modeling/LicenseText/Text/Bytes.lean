import LicenseText.Text.Basic

/-!
# Byte offsets

Positions in a document count the bytes of its UTF-8 form. A slice between two
positions is a text when both lie between characters. `LineCursor` finds the line of
a position by walking on from the position asked for before, so that asking for
positions in increasing order reads the text once.
-/

namespace LicenseText

namespace Text

def byteSize (t : Text) : Nat := t.foldl (fun size c => size + c.utf8Size) 0

/-- What remains behind the first `count` bytes, if these are whole characters. -/
def dropBytes? (count : Nat) (t : Text) : Option Text :=
  match count, t with
  | 0, t => some t
  | _ + 1, [] => none
  | count + 1, c :: rest =>
    if c.utf8Size ≤ count + 1 then dropBytes? (count + 1 - c.utf8Size) rest else none
termination_by structural t

/-- The text between two byte positions, if both lie between characters. -/
def byteSlice? (t : Text) (start stop : Nat) : Option Text :=
  if start ≤ stop then do
    let behindStart ← dropBytes? start t
    let behindStop ← dropBytes? (stop - start) behindStart
    some (behindStart.take (behindStart.length - behindStop.length))
  else none

end Text

/-- A place in a text: the byte position, the line of that position, and the text that
follows. -/
structure LineCursor where
  position : Nat
  line : Nat
  rest : Text

namespace LineCursor

def start (t : Text) : LineCursor := ⟨0, 1, t⟩

/-- Walks over the characters of `rest` that start before `offset`. -/
def advanceFrom (offset position line : Nat) : Text → LineCursor
  | [] => ⟨position, line, []⟩
  | c :: rest =>
    if position < offset then
      advanceFrom offset (position + c.utf8Size) (if c = '\n' then line + 1 else line)
        rest
    else ⟨position, line, c :: rest⟩

/-- Moves on to `offset`; the cursor stays where it is when it is already there. -/
def advance (cursor : LineCursor) (offset : Nat) : LineCursor :=
  advanceFrom offset cursor.position cursor.line cursor.rest

end LineCursor

end LicenseText
