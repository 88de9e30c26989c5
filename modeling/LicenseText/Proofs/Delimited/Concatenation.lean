import LicenseText.Proofs.Delimited.Completed
import LicenseText.Proofs.Text.Lines

/-!
# Documents one behind the other

Reading does not look at the numbers of the lines: when all lines move down, the items move
with them, and nothing else changes (`foundAlong_shift`). Behind whole lines that leave no
block open, a document is therefore read as if it stood alone. An open block shows in
nothing that is found before the document ends.
-/

namespace LicenseText

/-! ## Moving down -/

def NumberedLine.shift (count : Nat) (line : NumberedLine) : NumberedLine :=
  ⟨line.number + count, line.text⟩

/-- The comment, moved down by `count` lines. -/
def Comment.shift (count : Nat) (c : Comment) : Comment :=
  { c with startLine := c.startLine + count, endLine := c.endLine + count }

def StringLiteral.shift (count : Nat) (s : StringLiteral) : StringLiteral :=
  { s with line := s.line + count }

def Item.shift (count : Nat) : Item → Item
  | .comment c => .comment (c.shift count)
  | .string s => .string (s.shift count)

variable {count : Nat}

theorem Comment.shift_written (body : List Text) (startLine endLine : Nat) :
    (written body startLine endLine).shift count =
      written body (startLine + count) (endLine + count) := by
  simp [written, shift, bne, Nat.add_right_cancel_iff]

theorem Comment.shift_onLine (text : Text) (line : Nat) :
    (onLine text line).shift count = onLine text (line + count) :=
  shift_written [text] line line

theorem map_shift_toList (comment? : Option Comment) :
    ((comment?.map Item.comment).toList).map (Item.shift count) =
      ((comment?.map (Comment.shift count)).map Item.comment).toList := by
  cases comment? with
  | none => rfl
  | some c => rfl

namespace BlockState

variable {delimiters : DelimitedSyntax} {state : BlockState} {line : NumberedLine}

/-- The state in which all lines held back are moved down by `count` lines. -/
def shift (count : Nat) (state : BlockState) : BlockState :=
  { state with held := state.held.map (NumberedLine.shift count) }

theorem shift_outside : outside.shift count = outside := rfl

theorem hold_shift (number : Nat) (text : Text) :
    (state.shift count).hold (number + count) text = (state.hold number text).shift count :=
  rfl

theorem comment?_shift :
    (state.shift count).comment? = state.comment?.map (Comment.shift count) := by
  simp only [comment?, shift, List.getLast?_map, List.head?_map]
  cases state.held.getLast? with
  | none => rfl
  | some first =>
      cases state.held.head? with
      | none => rfl
      | some last =>
          simp only [Option.map_some, Comment.shift_written, ← List.map_reverse, List.map_map]
          rfl

theorem finish?_shift (policy : OpenBlockPolicy) :
    (state.shift count).finish? policy =
      (state.finish? policy).map (Comment.shift count) := by
  cases policy with
  | discard => rfl
  | emit =>
      have hin : (state.shift count).inBlock = state.inBlock := rfl
      rw [finish?, finish?, hin, comment?_shift]
      split
      · rfl
      · rfl

theorem feedInside_shift (block : BlockDelimiters) :
    (state.shift count).feedInside block (line.shift count) =
      ((state.feedInside block line).1.shift count,
        (state.feedInside block line).2.map (Comment.shift count)) := by
  have htext : (line.shift count).text = line.text := rfl
  have hnumber : (line.shift count).number = line.number + count := rfl
  rw [feedInside, feedInside, htext, hnumber]
  split
  · rw [hold_shift, comment?_shift]
    rfl
  · split
    · rfl
    · rfl

theorem feedOutside_shift (block : BlockDelimiters) :
    (state.shift count).feedOutside block (line.shift count) =
      ((state.feedOutside block line).1.shift count,
        (state.feedOutside block line).2.map (Comment.shift count)) := by
  have htext : (line.shift count).text = line.text := rfl
  have hnumber : (line.shift count).number = line.number + count := rfl
  rw [feedOutside, feedOutside, htext, hnumber]
  split
  · rfl
  · split
    · rw [Option.map_some, Comment.shift_onLine]
    · rw [hold_shift]
      rfl

/-- Reading a line further down leaves the same state and completes the same comment
further down. -/
theorem feed_shift (delimiters : DelimitedSyntax) (state : BlockState)
    (line : NumberedLine) :
    feed delimiters (state.shift count) (line.shift count) =
      ((feed delimiters state line).1.shift count,
        (feed delimiters state line).2.map (Comment.shift count)) := by
  have hin : (state.shift count).inBlock = state.inBlock := rfl
  have htext : (line.shift count).text = line.text := rfl
  have hnumber : (line.shift count).number = line.number + count := rfl
  rw [feed, feed, hin, htext, hnumber]
  split
  · split
    · rfl
    · exact feedInside_shift _
  · split
    · rw [Option.map_some, Comment.shift_onLine]
    · split
      · rfl
      · exact feedOutside_shift _

end BlockState

namespace Delimited

variable {delimiters : DelimitedSyntax} {withStrings : Bool}

theorem reportedStrings_shift (line : NumberedLine) :
    Progress.reportedStrings delimiters withStrings (line.shift count) =
      (Progress.reportedStrings delimiters withStrings line).map (Item.shift count) := by
  rw [Progress.reportedStrings, Progress.reportedStrings]
  split
  · simp only [Quoted.strings, List.map_flatMap, List.map_map]
    rfl
  · rfl

theorem stateAfter_shift (state : BlockState) (lines : List NumberedLine) :
    stateAfter delimiters (state.shift count) (lines.map (NumberedLine.shift count)) =
      (stateAfter delimiters state lines).shift count := by
  induction lines generalizing state with
  | nil => rfl
  | cons line rest ih =>
      rw [List.map_cons, stateAfter, stateAfter, BlockState.feed_shift, ih]

/-- Lines further down hold the same items further down. -/
theorem foundAlong_shift (state : BlockState) (lines : List NumberedLine) :
    foundAlong delimiters withStrings (state.shift count)
        (lines.map (NumberedLine.shift count)) =
      (foundAlong delimiters withStrings state lines).map (Item.shift count) := by
  induction lines generalizing state with
  | nil => rfl
  | cons line rest ih =>
      rw [List.map_cons, foundAlong, foundAlong, BlockState.feed_shift, ih, List.map_append,
        List.map_append, map_shift_toList, reportedStrings_shift]

theorem readableFrom_add (number : Nat) (lines : List Text) :
    readableFrom (number + count) lines =
      (readableFrom number lines).map (NumberedLine.shift count) := by
  induction lines generalizing number with
  | nil => rfl
  | cons raw rest ih =>
      have hnext : number + count + 1 = number + 1 + count := Nat.add_right_comm _ _ _
      rw [readableFrom, readableFrom, hnext, ih]
      split
      · rfl
      · rfl

/-- Behind whole lines, the lines of a document move down by the number of these lines. -/
theorem readableLines_append {first : Text} (hfirst : first.IsWholeLines) (second : Text) :
    readableLines (first ++ second) =
      readableLines first ++
        (readableLines second).map (NumberedLine.shift first.breaks) := by
  rw [readableLines_eq, readableLines_eq, readableLines_eq, Text.lines_append hfirst,
    readableFrom_append, Text.length_lines hfirst, readableFrom_add]

/-- Behind whole lines that leave no block open, a document has the items that it has alone,
further down. Whether or not a block is open, what is found in the whole lines stays
found. -/
theorem read_append {first : Text} (hfirst : first.IsWholeLines)
    (delimiters : DelimitedSyntax) (withStrings : Bool) (policy : OpenBlockPolicy)
    (second : Text) :
    ((stateAfter delimiters .outside (readableLines first)).inBlock = false →
      read delimiters withStrings policy (first ++ second) =
        read delimiters withStrings policy first ++
          (read delimiters withStrings policy second).map (Item.shift first.breaks)) ∧
    read delimiters withStrings .discard first <+:
      read delimiters withStrings policy (first ++ second) := by
  constructor
  · intro hin
    obtain ⟨next, hsound⟩ := exists_sound_of_append (List.append_nil (readableLines first)).symm
    have hstate := hsound.eq_outside hin
    rw [read_eq_foundAlong withStrings (.inr hin), read_eq, read_eq,
      readableLines_append hfirst, foundAlong_append, stateAfter_append, hstate]
    have hfound := @foundAlong_shift first.breaks delimiters withStrings .outside
      (readableLines second)
    have hafter := @stateAfter_shift first.breaks delimiters .outside (readableLines second)
    rw [BlockState.shift_outside] at hfound hafter
    rw [hfound, hafter, BlockState.finish?_shift, List.map_append, map_shift_toList,
      List.append_assoc]
  · rw [read_eq_foundAlong withStrings (.inl rfl), read_eq, readableLines_append hfirst,
      foundAlong_append, List.append_assoc]
    exact List.prefix_append _ _

theorem read_append_of_code :
    Text.IsWholeLines "/* a */ f();\r\n\n".toList ∧
      (read .cLike true .emit
          ("/* a */ f();\r\n\n".toList ++ "/* b\n * c */\ng(\"d\");".toList) =
        read .cLike true .emit "/* a */ f();\r\n\n".toList ++
          (read .cLike true .emit "/* b\n * c */\ng(\"d\");".toList).map (Item.shift 2)) ∧
      read .cLike true .discard "/* a */ f();\r\n\n".toList <+:
        read .cLike true .emit
          ("/* a */ f();\r\n\n".toList ++ "/* b\n * c */\ng(\"d\");".toList) := by
  have hwhole : Text.IsWholeLines "/* a */ f();\r\n\n".toList := by decide
  obtain ⟨hclosed, hprefix⟩ :=
    read_append hwhole .cLike true .emit "/* b\n * c */\ng(\"d\");".toList
  exact ⟨hwhole, hclosed (by decide +kernel), hprefix⟩

end Delimited

end LicenseText
