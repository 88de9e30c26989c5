import LicenseText.Proofs.Text.ByteOrder
import LicenseText.Proofs.Text.Bytes

/-!
# Lines counted in bytes

The line of a byte position is found by counting the line feeds among the bytes in front of
it (`countedLine`). A line feed is one byte of its own, and that byte occurs in no other
character, so counting characters finds the same line. A cursor that is moved from position
to position gives the line of the furthest of them so far; where the positions do not
decrease, this is the line of each.
-/

namespace LicenseText

namespace Text

/-! ## Line feeds among the bytes -/

theorem encodeChar_newline : String.utf8EncodeChar '\n' = ['\n'.toUInt8] := rfl

/-- The byte of a line feed occurs in no other character. -/
theorem newline_not_mem_encodeChar {c : Char} (hc : c ≠ '\n') :
    '\n'.toUInt8 ∉ String.utf8EncodeChar c := by
  have hvalue : c.val.toNat ≠ 10 := fun h => hc (Char.toNat_inj.mp h)
  have hbyte : '\n'.toUInt8 = UInt8.ofNat 10 := rfl
  -- only the first 128 characters have a byte below 128, and theirs is their number
  simp only [hbyte, String.utf8EncodeChar]
  generalize c.val.toNat = v at hvalue
  repeat' split
  all_goals
    simp only [List.mem_cons, List.not_mem_nil, or_false, not_or, ← UInt8.toNat_inj,
      UInt8.toNat_ofNat']
    omega

/-- The first bytes of a text have the line feeds of the characters that start among them. -/
theorem count_take_bytes (t : Text) (count : Nat) :
    (t.bytes.take count).count '\n'.toUInt8 = breaks (takeBytes count t) := by
  induction t generalizing count with
  | nil => simp [bytes, takeBytes]
  | cons c t ih =>
      rcases Nat.eq_zero_or_pos count with rfl | hpos
      · simp
      · have hchar : ((String.utf8EncodeChar c).take count).count '\n'.toUInt8 =
            if c = '\n' then 1 else 0 := by
          by_cases hc : c = '\n'
          · rw [hc, encodeChar_newline, List.take_of_length_le hpos, if_pos rfl]
            rfl
          · rw [if_neg hc, List.count_eq_zero]
            exact fun hmem => newline_not_mem_encodeChar hc (List.mem_of_mem_take hmem)
        rw [bytes_cons, List.take_append, List.count_append, String.length_utf8EncodeChar,
          hchar, ih, takeBytes_cons hpos, breaks_cons, Nat.add_comm]

/-- The line of a byte position, counted in bytes: the first line, and one more for each line
feed among the bytes in front of the position. All bytes of the text are in front of a
position past its end. -/
def countedLine (t : Text) (offset : Nat) : Nat :=
  1 + (t.bytes.take (min offset t.bytes.length)).count '\n'.toUInt8

theorem countedLine_eq_lineAt (t : Text) (offset : Nat) :
    countedLine t offset = lineAt t offset := by
  rw [countedLine, ← List.take_eq_take_min, count_take_bytes, lineAt]

end Text

/-! ## A cursor that is moved from position to position -/

namespace LineCursor

open Text

/-- The lines that the cursor gives when it is moved to one position after the other. -/
def linesAt (cursor : LineCursor) : List Nat → List Nat
  | [] => []
  | offset :: later =>
    let moved := cursor.advance offset
    moved.line :: moved.linesAt later

/-- The furthest position so far at each of the positions, where `reached` is the furthest in
front of them. -/
def furthest (reached : Nat) : List Nat → List Nat
  | [] => []
  | offset :: later => max reached offset :: furthest (max reached offset) later

theorem furthest_eq_self {reached : Nat} {offsets : List Nat}
    (h : (reached :: offsets).Pairwise (· ≤ ·)) : furthest reached offsets = offsets := by
  induction offsets generalizing reached with
  | nil => rfl
  | cons offset later ih =>
      obtain ⟨hreached, hlater⟩ := List.pairwise_cons.mp h
      rw [furthest, Nat.max_eq_right (hreached offset List.mem_cons_self), ih hlater]

variable {content : Text} {reached : Nat} {cursor : LineCursor}

/-- Wherever the cursor is moved to, it stands at the furthest position so far. -/
theorem StandsAt.advance_max (h : StandsAt content reached cursor) (offset : Nat) :
    StandsAt content (max reached offset) (cursor.advance offset) := by
  rcases Nat.le_total reached offset with hle | hle
  · rw [Nat.max_eq_right hle]
    exact h.advance hle
  · rw [Nat.max_eq_left hle, h.advance_of_le hle]
    exact h

/-- Whatever the positions are, the cursor gives the lines of the furthest of them so far. -/
theorem StandsAt.linesAt_eq (h : StandsAt content reached cursor) (offsets : List Nat) :
    cursor.linesAt offsets = (furthest reached offsets).map content.countedLine := by
  induction offsets generalizing reached cursor with
  | nil => rfl
  | cons offset later ih =>
      have hmoved := h.advance_max offset
      rw [linesAt, furthest, List.map_cons, countedLine_eq_lineAt, ← hmoved.line, ih hmoved]

/-- Where the positions do not decrease, the cursor gives the line of each. -/
theorem linesAt_start_of_pairwise (content : Text) {offsets : List Nat}
    (h : offsets.Pairwise (· ≤ ·)) :
    (start content).linesAt offsets = offsets.map content.countedLine := by
  rw [(standsAt_start content).linesAt_eq,
    furthest_eq_self (List.pairwise_cons.mpr ⟨fun _ _ => Nat.zero_le _, h⟩)]

end LineCursor

end LicenseText
