import LicenseText.Proofs.Delimited.Block
import LicenseText.Proofs.Delimited.Lines
import LicenseText.Proofs.Item.Spans

/-!
# The items of a run of lines

A run of lines leads from one block state to another and completes comments on its way.
Both can be taken apart where the run is split. The items of a document are those found
along its lines, each of which ends on the line with which it is found, and the comment left
open at its end.
-/

namespace LicenseText

namespace Delimited

variable {delimiters : DelimitedSyntax} {state : BlockState}

def stateAfter (delimiters : DelimitedSyntax) : BlockState → List NumberedLine → BlockState
  | state, [] => state
  | state, line :: rest => stateAfter delimiters (state.feed delimiters line).1 rest

def completed (delimiters : DelimitedSyntax) : BlockState → List NumberedLine → List Comment
  | _, [] => []
  | state, line :: rest =>
    (state.feed delimiters line).2.toList ++
      completed delimiters (state.feed delimiters line).1 rest

theorem stateAfter_append (state : BlockState) (xs ys : List NumberedLine) :
    stateAfter delimiters state (xs ++ ys) =
      stateAfter delimiters (stateAfter delimiters state xs) ys := by
  induction xs generalizing state with
  | nil => rfl
  | cons line rest ih => exact ih _

theorem completed_append (state : BlockState) (xs ys : List NumberedLine) :
    completed delimiters state (xs ++ ys) =
      completed delimiters state xs ++
        completed delimiters (stateAfter delimiters state xs) ys := by
  induction xs generalizing state with
  | nil => rfl
  | cons line rest ih =>
      rw [List.cons_append, completed, ih, completed, stateAfter, List.append_assoc]

/-- Behind a run of lines with increasing numbers the block is sound. -/
theorem sound_stateAfter {next : Nat} (h : state.Sound delimiters next)
    {lines : List NumberedLine}
    (hlines : lines.Pairwise fun line later => line.number < later.number)
    (hnext : ∀ line ∈ lines, next ≤ line.number) :
    ∃ next, (stateAfter delimiters state lines).Sound delimiters next := by
  induction lines generalizing next state with
  | nil => exact ⟨next, h⟩
  | cons line rest ih =>
      obtain ⟨hlater, hrest⟩ := List.pairwise_cons.mp hlines
      exact ih (h.feed (hnext line List.mem_cons_self)) hrest hlater

/-- Behind any of the lines of a document the block is sound. -/
theorem exists_sound_of_append {content : Text} {before after : List NumberedLine}
    (h : readableLines content = before ++ after) :
    ∃ next, (stateAfter delimiters .outside before).Sound delimiters next := by
  have hlines := pairwise_number_readableLines content
  rw [h] at hlines
  apply sound_stateAfter (BlockState.Sound.outside delimiters 0)
    (List.pairwise_append.mp hlines).1
  intro line _
  exact Nat.zero_le _

/-- The comments of a document that consists of the lines. -/
def commentsIn (delimiters : DelimitedSyntax) (policy : OpenBlockPolicy)
    (lines : List NumberedLine) : List Comment :=
  completed delimiters .outside lines ++
    ((stateAfter delimiters .outside lines).finish? policy).toList

/-- Where no block is open, a document falls into two. -/
theorem commentsIn_append {xs : List NumberedLine}
    (houtside : stateAfter delimiters .outside xs = .outside) (policy : OpenBlockPolicy)
    (ys : List NumberedLine) :
    commentsIn delimiters policy (xs ++ ys) =
      completed delimiters .outside xs ++ commentsIn delimiters policy ys := by
  rw [commentsIn, completed_append, stateAfter_append, houtside, List.append_assoc, commentsIn]

/-! ## Items -/

/-- The items found along the lines: with each line the comment that it completes, and
then its strings. -/
def foundAlong (delimiters : DelimitedSyntax) (withStrings : Bool) :
    BlockState → List NumberedLine → List Item
  | _, [] => []
  | state, line :: rest =>
    ((state.feed delimiters line).2.map Item.comment).toList
      ++ Progress.reportedStrings delimiters withStrings line
      ++ foundAlong delimiters withStrings (state.feed delimiters line).1 rest

variable {withStrings : Bool}

theorem commentsOf_reportedStrings (delimiters : DelimitedSyntax) (withStrings : Bool)
    (line : NumberedLine) :
    commentsOf (Progress.reportedStrings delimiters withStrings line) = [] := by
  rw [Progress.reportedStrings]
  split
  · exact commentsOf_map_string _
  · rfl

theorem foundAlong_append (state : BlockState) (xs ys : List NumberedLine) :
    foundAlong delimiters withStrings state (xs ++ ys) =
      foundAlong delimiters withStrings state xs ++
        foundAlong delimiters withStrings (stateAfter delimiters state xs) ys := by
  induction xs generalizing state with
  | nil => rfl
  | cons line rest ih =>
      rw [List.cons_append, foundAlong, ih, foundAlong, stateAfter, List.append_assoc,
        List.append_assoc, List.append_assoc]

theorem commentsOf_foundAlong (state : BlockState) (lines : List NumberedLine) :
    commentsOf (foundAlong delimiters withStrings state lines) =
      completed delimiters state lines := by
  induction lines generalizing state with
  | nil => rfl
  | cons line rest ih =>
      rw [foundAlong, commentsOf_append, commentsOf_append, ih, commentsOf_toList,
        commentsOf_reportedStrings, List.append_nil, completed]

/-- A comment ends on the line that completes it. -/
theorem endLine_of_feed {line : NumberedLine} {c : Comment}
    (h : (state.feed delimiters line).2 = some c) : c.endLine = line.number := by
  rcases BlockState.feed_cases delimiters state line with
    ⟨-, heq⟩ | ⟨-, text, -, ⟨-, heq⟩ | ⟨-, heq⟩ | ⟨-, heq⟩⟩
  · rw [heq] at h
    contradiction
  · rw [heq] at h
    obtain rfl := Option.some.inj h
    rfl
  · rw [heq] at h
    contradiction
  · rw [heq, BlockState.comment?_hold] at h
    obtain rfl := Option.some.inj h
    rfl

theorem lastLine_of_mem_reportedStrings {line : NumberedLine} {item : Item}
    (h : item ∈ Progress.reportedStrings delimiters withStrings line) :
    item.lastLine = line.number := by
  rw [Progress.reportedStrings] at h
  split at h
  · obtain ⟨s, hs, rfl⟩ := List.mem_map.mp h
    obtain ⟨quote, -, hs⟩ := List.mem_flatMap.mp hs
    obtain ⟨inside, -, rfl⟩ := List.mem_map.mp hs
    rfl
  · contradiction

/-- The items found on a line end on that line. -/
theorem lastLine_of_mem_line {line : NumberedLine} {item : Item}
    (h : item ∈ ((state.feed delimiters line).2.map Item.comment).toList ++
      Progress.reportedStrings delimiters withStrings line) :
    item.lastLine = line.number := by
  rcases List.mem_append.mp h with h | h
  · obtain ⟨c, hc, rfl⟩ := Option.map_eq_some_iff.mp (Option.mem_toList.mp h)
    exact endLine_of_feed hc
  · exact lastLine_of_mem_reportedStrings h

theorem exists_line_of_mem_foundAlong {lines : List NumberedLine} {item : Item}
    (h : item ∈ foundAlong delimiters withStrings state lines) :
    ∃ line ∈ lines, item.lastLine = line.number := by
  induction lines generalizing state with
  | nil => contradiction
  | cons line rest ih =>
      rw [foundAlong] at h
      rcases List.mem_append.mp h with h | h
      · exact ⟨line, List.mem_cons_self, lastLine_of_mem_line h⟩
      · obtain ⟨later, hlater, heq⟩ := ih h
        exact ⟨later, List.mem_cons_of_mem _ hlater, heq⟩

namespace Progress

theorem block_step (progress : Progress) (line : NumberedLine) :
    (progress.step delimiters withStrings line).block =
      (progress.block.feed delimiters line).1 := rfl

theorem block_foldl (progress : Progress) (lines : List NumberedLine) :
    (lines.foldl (step delimiters withStrings) progress).block =
      stateAfter delimiters progress.block lines := by
  induction lines generalizing progress with
  | nil => rfl
  | cons line rest ih => rw [List.foldl_cons, ih, block_step, stateAfter]

theorem found_foldl (progress : Progress) (lines : List NumberedLine) :
    (lines.foldl (step delimiters withStrings) progress).found.reverse =
      progress.found.reverse ++
        foundAlong delimiters withStrings progress.block lines := by
  induction lines generalizing progress with
  | nil => rw [List.foldl_nil, foundAlong, List.append_nil]
  | cons line rest ih =>
      rw [List.foldl_cons, ih, block_step, step, List.reverse_append, List.reverse_reverse,
        List.append_assoc, foundAlong]

end Progress

/-- A document has the items found along its lines, and then the comment left open. -/
theorem read_eq (delimiters : DelimitedSyntax) (withStrings : Bool)
    (policy : OpenBlockPolicy) (content : Text) :
    read delimiters withStrings policy content =
      foundAlong delimiters withStrings .outside (readableLines content) ++
        (((stateAfter delimiters .outside (readableLines content)).finish? policy).map
          Item.comment).toList := by
  rw [read, Progress.finish, Progress.found_foldl, Progress.block_foldl]
  rfl

/-- A document that leaves no block open, or drops the open one, has no items but those
found along its lines. -/
theorem read_eq_foundAlong (withStrings : Bool) {policy : OpenBlockPolicy} {content : Text}
    (h : policy = .discard ∨
      (stateAfter delimiters .outside (readableLines content)).inBlock = false) :
    read delimiters withStrings policy content =
      foundAlong delimiters withStrings .outside (readableLines content) := by
  rw [read_eq, BlockState.finish?_eq_none h]
  exact List.append_nil _

/-- A document has the comments that its lines have, whether strings are read or not. -/
theorem commentsOf_read (delimiters : DelimitedSyntax) (withStrings : Bool)
    (policy : OpenBlockPolicy) (content : Text) :
    commentsOf (read delimiters withStrings policy content) =
      commentsIn delimiters policy (readableLines content) := by
  rw [read_eq, commentsOf_append, commentsOf_foundAlong, commentsOf_toList, commentsIn]

end Delimited

end LicenseText
