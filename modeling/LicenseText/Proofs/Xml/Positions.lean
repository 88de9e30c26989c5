import LicenseText.Proofs.Text.LineCursor
import LicenseText.Proofs.Xml.Spans

/-!
# The positions at which lines are looked up

A document may be read event by event, with the cursor moved to the position of each event as
soon as the event is there (`readingFrom`). This finds the same items, or the same fault, as
reading all events first, and it shows where the cursor is moved in a document that turns out
to be faulty, too. An event starts where the one in front of it stops, so in every reading
the positions do not decrease, as the cursor demands, and the lines found are those of the
positions.
-/

namespace LicenseText

namespace Xml

open Text

/-! ## Reading event by event -/

/-- A position that the cursor was moved to, and the line that it gave. -/
structure LineQuery where
  offset : Nat
  line : Nat
  deriving Repr, DecidableEq

/-- What the cursor was asked in turn while a document was read, and what the document turned
out to be. -/
structure Reading where
  queries : List LineQuery
  outcome : Except Failure (List Item)

namespace Reading

def offsets (reading : Reading) : List Nat := reading.queries.map LineQuery.offset

def lines (reading : Reading) : List Nat := reading.queries.map LineQuery.line

end Reading

/-- Reads what follows `position` event by event. The cursor is moved once an event is there,
so it is not moved for a fault; it is moved for the end of the document. -/
def readingFrom (content : Text) (withStrings : Bool) (position : Nat) (progress : Progress)
    (input : Text) : Reading :=
  match input with
  | [] =>
    ⟨[⟨position, (progress.cursor.advance position).line⟩], .ok progress.found.reverse⟩
  | c :: rest =>
    let piece := Piece.first c rest
    let stop := position + piece.taken.byteSize
    match piece.verdict with
    | .error fault => ⟨[], .error ⟨stop, fault⟩⟩
    | .ok kind =>
      let next := progress.step content withStrings ⟨position, stop, kind⟩
      let later := readingFrom content withStrings stop next piece.rest
      ⟨⟨position, next.cursor.line⟩ :: later.queries, later.outcome⟩
termination_by input.length
decreasing_by exact Piece.length_rest_first c rest

def reading (content : Text) (withStrings : Bool) : Reading :=
  readingFrom content withStrings 0 ⟨.start content, []⟩ (dropMark content)

/-! ## What a reading finds, and what it asks -/

section Steps

variable (content : Text) (withStrings : Bool) (position : Nat) (progress : Progress)
  (input : Text)

/-- Reading event by event finds what is found when all events are read first. -/
theorem outcome_readingFrom :
    (readingFrom content withStrings position progress input).outcome =
      (eventsFrom position [] input).map fun events =>
        (events.foldl (Progress.step content withStrings) progress).found.reverse := by
  fun_induction readingFrom content withStrings position progress input with
  | case1 position progress =>
      rw [eventsFrom]
      rfl
  | case2 position progress c rest piece stop fault hfault =>
      rw [eventsFrom, hfault]
      rfl
  | case3 position progress c rest piece stop kind hkind next later ih =>
      rw [ih, eventsFrom_cons hkind]
      cases eventsFrom stop [] piece.rest with
      | error failure => rfl
      | ok events => rfl

/-- The lines are those that one cursor gives for the positions in turn. -/
theorem lines_readingFrom :
    (readingFrom content withStrings position progress input).lines =
      progress.cursor.linesAt
        (readingFrom content withStrings position progress input).offsets := by
  fun_induction readingFrom content withStrings position progress input with
  | case1 position progress => rfl
  | case2 position progress c rest piece stop fault hfault => rfl
  | case3 position progress c rest piece stop kind hkind next later ih =>
      exact congrArg (next.cursor.line :: ·) ih

/-- The positions do not decrease, and none of them is in front of the first event. -/
theorem pairwise_offsets_readingFrom :
    (position ::
      (readingFrom content withStrings position progress input).offsets).Pairwise
        (· ≤ ·) := by
  fun_induction readingFrom content withStrings position progress input with
  | case1 position progress => simp [Reading.offsets]
  | case2 position progress c rest piece stop fault hfault => simp [Reading.offsets]
  | case3 position progress c rest piece stop kind hkind next later ih =>
      obtain ⟨hstop, hlater⟩ := List.pairwise_cons.mp ih
      have hposition : ∀ offset ∈ later.offsets, position ≤ offset := by
        intro offset hoffset
        exact Nat.le_trans (Nat.le_add_right _ _) (hstop offset hoffset)
      exact .cons (List.forall_mem_cons.mpr ⟨Nat.le_refl _, hposition⟩)
        (.cons hposition hlater)

/-- In a document without faults the positions are those of its events, and its end. -/
theorem offsets_readingFrom :
    ∀ found, eventsFrom position [] input = .ok found →
      (readingFrom content withStrings position progress input).offsets =
        found.map Event.start ++ [position + byteSize input] := by
  fun_induction readingFrom content withStrings position progress input with
  | case1 position progress =>
      intro found h
      rw [eventsFrom] at h
      obtain rfl : [] = found := Except.ok.inj h
      rfl
  | case2 position progress c rest piece stop fault hfault =>
      intro found h
      rw [eventsFrom, hfault] at h
      contradiction
  | case3 position progress c rest piece stop kind hkind next later ih =>
      intro found h
      obtain ⟨kind, found, hverdict, hfound, rfl⟩ := eventsFrom_cons_eq_ok h
      have hsize := congrArg byteSize (Piece.append_rest_first hverdict)
      rw [byteSize_append] at hsize
      have hend : stop + byteSize piece.rest = position + byteSize (c :: rest) := by
        rw [← hsize]
        exact Nat.add_assoc _ _ _
      have hlater := ih found hfound
      rw [hend] at hlater
      exact congrArg (position :: ·) hlater

end Steps

/-! ## Lines in every reading -/

/-- For positions that do not decrease, wherever they are, a cursor gives the first line and
one more for each line feed among the bytes in front. A reader of documents asks it for such
positions only: in every reading, also of a document that is refused, the cursor is moved
from its start along positions that do not decrease. In a document that is not refused, they
are those of the events and the end of the document. -/
theorem lineCursor_exact_on_readings (content : Text) :
    (∀ offsets : List Nat, offsets.Pairwise (· ≤ ·) →
      (LineCursor.start content).linesAt offsets = offsets.map content.countedLine) ∧
    ∀ withStrings : Bool,
      (reading content withStrings).outcome = read content withStrings ∧
      (reading content withStrings).lines =
        (LineCursor.start content).linesAt (reading content withStrings).offsets ∧
      (reading content withStrings).offsets.Pairwise (· ≤ ·) ∧
      ∀ found, events content = .ok found →
        (reading content withStrings).offsets =
          found.map Event.start ++ [byteSize (dropMark content)] := by
  refine ⟨fun offsets => LineCursor.linesAt_start_of_pairwise content, ?_⟩
  intro withStrings
  refine ⟨?_, ?_, ?_, ?_⟩
  · exact outcome_readingFrom content withStrings 0 _ (dropMark content)
  · exact lines_readingFrom content withStrings 0 _ (dropMark content)
  · exact (pairwise_offsets_readingFrom content withStrings 0 _ (dropMark content)).tail
  · intro found hfound
    have hoffsets := offsets_readingFrom content withStrings 0 ⟨.start content, []⟩
      (dropMark content) found hfound
    rwa [Nat.zero_add] at hoffsets

/-- One of the positions is inside a character, and one is behind the end of the text. -/
theorem lineCursor_exact_on_readings_of_note :
    [0, 4, 5, 6, 6, 40].Pairwise (· ≤ ·) ∧
      (LineCursor.start "<a>é\n<b>".toList).linesAt [0, 4, 5, 6, 6, 40] = [1, 1, 1, 2, 2, 2] ∧
      events "<a>é\n<b>".toList =
        .ok [⟨0, 3, .markup⟩, ⟨3, 6, .text "é\n".toList⟩, ⟨6, 9, .markup⟩] ∧
      (reading "<a>é\n<b>".toList true).offsets = [0, 3, 6, 9] ∧
      (reading "<a>é\n<b>".toList true).lines = [1, 1, 2, 2] := by
  obtain ⟨hlines, hreading⟩ := lineCursor_exact_on_readings "<a>é\n<b>".toList
  obtain ⟨-, hasked, -, hoffsets⟩ := hreading true
  have hevents : events "<a>é\n<b>".toList =
      .ok [⟨0, 3, .markup⟩, ⟨3, 6, .text "é\n".toList⟩, ⟨6, 9, .markup⟩] := by decide +kernel
  have hpositions : (reading "<a>é\n<b>".toList true).offsets = [0, 3, 6, 9] :=
    (hoffsets _ hevents).trans (by decide)
  refine ⟨by decide, ?_, hevents, hpositions, ?_⟩
  · exact (hlines [0, 4, 5, 6, 6, 40] (by decide)).trans (by decide)
  · rw [hasked, hpositions, hlines [0, 3, 6, 9] (by decide)]
    decide

/-- The comment has no end, and no line is looked up for it. -/
example : (reading "<a>\n<!-- x".toList true).offsets = [0, 3] := by decide +kernel

end Xml

end LicenseText
