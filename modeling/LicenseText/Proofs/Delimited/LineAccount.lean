import Mathlib.Data.List.Forall2
import LicenseText.Proofs.Delimited.Completed

/-!
# Which lines the comments are made of

Each line of a comment's body comes from a line of the document (`Comment.StandsOn`). A
run of lines hands every line that contributes to exactly one comment, in the order of the
document: `exists_sources_feed` says so of one line, where lines may still be held back
for a comment that is not complete, and `exists_sources` of a run. The account of a whole
document is `LineAccount`.
-/

namespace LicenseText

/-! ## Comments and their lines -/

/-- The lines of the comment's body are parts of the given lines, one of each, and the
comment starts and ends on the first and on the last of them. -/
structure Comment.StandsOn (c : Comment) (lines : List NumberedLine) : Prop where
  body : List.Forall₂ (fun text line => text <:+: line.text) c.body lines
  start : lines.head?.map NumberedLine.number = some c.startLine
  stop : lines.getLast?.map NumberedLine.number = some c.endLine

namespace Comment.StandsOn

variable {c : Comment} {lines : List NumberedLine}

theorem onLine {text : Text} {line : NumberedLine} (h : text <:+: line.text) :
    (Comment.onLine text line.number).StandsOn [line] where
  body := .cons h .nil
  start := rfl
  stop := rfl

theorem exists_start (h : c.StandsOn lines) : ∃ line ∈ lines, line.number = c.startLine := by
  obtain ⟨line, hline, hnumber⟩ := Option.map_eq_some_iff.mp h.start
  exact ⟨line, List.mem_of_head? hline, hnumber⟩

theorem exists_stop (h : c.StandsOn lines) : ∃ line ∈ lines, line.number = c.endLine := by
  obtain ⟨line, hline, hnumber⟩ := Option.map_eq_some_iff.mp h.stop
  exact ⟨line, List.mem_of_getLast? hline, hnumber⟩

end Comment.StandsOn

section Sources

variable {comments : List Comment} {sources : List (List NumberedLine)}

theorem exists_standsOn_of_mem (h : List.Forall₂ Comment.StandsOn comments sources)
    {c : Comment} (hc : c ∈ comments) : ∃ lines ∈ sources, c.StandsOn lines := by
  induction h with
  | nil => contradiction
  | @cons first lines rest sources hfirst hrest ih =>
      rcases List.mem_cons.mp hc with rfl | hc
      · exact ⟨lines, List.mem_cons_self, hfirst⟩
      · obtain ⟨later, hlater, hstands⟩ := ih hc
        exact ⟨later, List.mem_cons_of_mem _ hlater, hstands⟩

/-- Comments that are made of later and later lines are apart. -/
theorem pairwise_endLine_lt_startLine (h : List.Forall₂ Comment.StandsOn comments sources)
    (hlines : sources.flatten.Pairwise fun line later => line.number < later.number) :
    comments.Pairwise fun c next => c.endLine < next.startLine := by
  induction h with
  | nil => exact .nil
  | @cons c lines rest sources hc hrest ih =>
      rw [List.flatten_cons, List.pairwise_append] at hlines
      obtain ⟨-, hlater, hbefore⟩ := hlines
      refine List.pairwise_cons.mpr ⟨?_, ih hlater⟩
      intro next hnext
      obtain ⟨nextLines, hmem, hstands⟩ := exists_standsOn_of_mem hrest hnext
      obtain ⟨last, hlast, hstop⟩ := hc.exists_stop
      obtain ⟨first, hfirst, hstart⟩ := hstands.exists_start
      rw [← hstop, ← hstart]
      exact hbefore last hlast first (List.mem_flatten_of_mem hmem hfirst)

end Sources

/-! ## Lines that are held back -/

namespace BlockState

variable {delimiters : DelimitedSyntax} {state : BlockState} {line : NumberedLine}
variable {lines : List NumberedLine}

/-- The lines held back are parts of the given lines, one of each. -/
def Holds (state : BlockState) (lines : List NumberedLine) : Prop :=
  List.Forall₂ (fun held line => held.number = line.number ∧ held.text <:+: line.text)
    state.held.reverse lines

theorem holds_outside : outside.Holds [] := .nil

theorem Holds.eq_nil (h : state.Holds lines) (hheld : state.held = []) : lines = [] := by
  rw [Holds, hheld] at h
  exact List.forall₂_nil_left_iff.mp h

theorem Holds.hold (h : state.Holds lines) {text : Text} (htext : text <:+: line.text) :
    (state.hold line.number text).Holds (lines ++ [line]) := by
  rw [Holds, BlockState.hold, List.reverse_cons]
  exact List.rel_append h (.cons ⟨rfl, htext⟩ .nil)

theorem Holds.map_number (h : state.Holds lines) :
    lines.map NumberedLine.number = state.held.reverse.map NumberedLine.number := by
  have heq : List.Forall₂ (· = ·) (state.held.reverse.map NumberedLine.number)
      (lines.map NumberedLine.number) := by
    rw [List.forall₂_map_left_iff, List.forall₂_map_right_iff]
    exact List.Forall₂.imp (fun _ _ hline => hline.1) h
  rw [List.forall₂_eq_eq_eq] at heq
  exact heq.symm

/-- The lines held back make a comment that stands on the lines they come from. -/
theorem Holds.exists_standsOn (h : state.Holds lines) (hheld : state.held ≠ []) :
    ∃ c, state.comment? = some c ∧ c.StandsOn lines := by
  obtain ⟨last, hlast⟩ := Option.ne_none_iff_exists'.mp (mt List.head?_eq_none_iff.mp hheld)
  obtain ⟨first, hfirst⟩ :=
    Option.ne_none_iff_exists'.mp (mt List.getLast?_eq_none_iff.mp hheld)
  refine ⟨.written (state.held.reverse.map NumberedLine.text) first.number last.number, ?_, ?_⟩
  · rw [comment?, hfirst, hlast]
  constructor
  · apply List.forall₂_map_left_iff.mpr
    exact List.Forall₂.imp (fun _ _ hline => hline.2) h
  · rw [← List.head?_map, h.map_number, List.head?_map, List.head?_reverse, hfirst]
    rfl
  · rw [← List.getLast?_map, h.map_number, List.getLast?_map, List.getLast?_reverse, hlast]
    rfl

end BlockState

/-! ## The lines of a run -/

namespace Delimited

open BlockState

variable {delimiters : DelimitedSyntax} {state : BlockState} {line : NumberedLine}

instance (delimiters : DelimitedSyntax) (state : BlockState) (text : Text) :
    Decidable (Contributes delimiters state text) :=
  inferInstanceAs (Decidable (if state.inBlock then _ else _))

def contributing (delimiters : DelimitedSyntax) :
    BlockState → List NumberedLine → List NumberedLine
  | _, [] => []
  | state, line :: rest =>
    (if Contributes delimiters state line.text then [line] else [])
      ++ contributing delimiters (state.feed delimiters line).1 rest

theorem contributing_sublist (state : BlockState) (lines : List NumberedLine) :
    (contributing delimiters state lines).Sublist lines := by
  induction lines generalizing state with
  | nil => exact .refl _
  | cons line rest ih =>
      have hline : (if Contributes delimiters state line.text then [line] else []).Sublist
          [line] := by
        split
        · exact .refl _
        · exact List.nil_sublist _
      exact hline.append (ih _)

theorem contributing_append (state : BlockState) (xs ys : List NumberedLine) :
    contributing delimiters state (xs ++ ys) =
      contributing delimiters state xs ++
        contributing delimiters (stateAfter delimiters state xs) ys := by
  induction xs generalizing state with
  | nil => rfl
  | cons line rest ih =>
      rw [List.cons_append, contributing, ih, contributing, stateAfter, List.append_assoc]

/-- A line that occurs once in a run contributes as it does behind the lines before it. -/
theorem mem_contributing_iff {before after : List NumberedLine} (hbefore : line ∉ before)
    (hafter : line ∉ after) :
    line ∈ contributing delimiters state (before ++ line :: after) ↔
      Contributes delimiters (stateAfter delimiters state before) line.text := by
  rw [contributing_append, contributing, List.mem_append, List.mem_append]
  constructor
  · rintro (hmem | hmem | hmem)
    · exact absurd ((contributing_sublist _ _).subset hmem) hbefore
    · split at hmem
      · assumption
      · contradiction
    · exact absurd ((contributing_sublist _ _).subset hmem) hafter
  · intro hline
    rw [if_pos hline]
    exact .inr (.inl (List.mem_singleton_self line))

/-- A line that contributes goes to the lines held back or to the comment that it
completes. -/
theorem exists_sources_feed {next : Nat} {held : List NumberedLine}
    (hsound : state.Sound delimiters next) (hheld : state.Holds held)
    (line : NumberedLine) :
    ∃ sources rest,
      List.Forall₂ Comment.StandsOn (state.feed delimiters line).2.toList sources ∧
      (state.feed delimiters line).1.Holds rest ∧
      sources.flatten ++ rest =
        held ++ if Contributes delimiters state line.text then [line] else [] := by
  rcases feed_cases delimiters state line with
    ⟨hline, heq⟩ | ⟨hline, text, htext, ⟨hin, heq⟩ | ⟨-, heq⟩ | ⟨-, heq⟩⟩
  · refine ⟨[], held, ?_, ?_, ?_⟩
    · rw [heq]
      exact .nil
    · rwa [heq]
    · rw [if_neg hline, List.append_nil]
      rfl
  · have hnil := hheld.eq_nil (hsound.held_eq_nil hin)
    refine ⟨[[line]], held, ?_, ?_, ?_⟩
    · rw [heq]
      exact .cons (.onLine htext) .nil
    · rwa [heq]
    · rw [if_pos hline, hnil]
      rfl
  · refine ⟨[], held ++ [line], ?_, ?_, ?_⟩
    · rw [heq]
      exact .nil
    · rw [heq]
      exact hheld.hold htext
    · rw [if_pos hline]
      rfl
  · obtain ⟨c, hc, hstands⟩ := (hheld.hold htext).exists_standsOn (List.cons_ne_nil _ _)
    refine ⟨[held ++ [line]], [], ?_, ?_, ?_⟩
    · rw [heq, hc]
      exact .cons hstands .nil
    · rw [heq]
      exact holds_outside
    · rw [if_pos hline, List.flatten_singleton, List.append_nil]

/-- A run hands the lines that contribute, and those held back before it, to its comments
and to the lines held back behind it. -/
theorem exists_sources {next : Nat} {held lines : List NumberedLine}
    (hsound : state.Sound delimiters next) (hheld : state.Holds held)
    (hlines : lines.Pairwise fun line later => line.number < later.number)
    (hnext : ∀ line ∈ lines, next ≤ line.number) :
    ∃ sources rest,
      List.Forall₂ Comment.StandsOn (completed delimiters state lines) sources ∧
      (stateAfter delimiters state lines).Holds rest ∧
      sources.flatten ++ rest = held ++ contributing delimiters state lines := by
  induction lines generalizing state next held with
  | nil => exact ⟨[], held, .nil, hheld, (List.append_nil held).symm⟩
  | cons line later ih =>
      obtain ⟨hlater, hrest⟩ := List.pairwise_cons.mp hlines
      obtain ⟨first, between, hfirst, hbetween, heq⟩ := exists_sources_feed hsound hheld line
      obtain ⟨sources, rest, hsources, hholds, hflatten⟩ :=
        ih (hsound.feed (hnext line List.mem_cons_self)) hbetween hrest hlater
      refine ⟨first ++ sources, rest, List.rel_append hfirst hsources, hholds, ?_⟩
      rw [List.flatten_append, List.append_assoc, hflatten, ← List.append_assoc, heq,
        List.append_assoc, contributing]

/-! ## The lines of a document -/

/-- The comments of a document are made of lines that contribute, in their order. Under the
emitting policy all lines that contribute are used. -/
theorem exists_sources_read (delimiters : DelimitedSyntax) (withStrings : Bool)
    (policy : OpenBlockPolicy) (content : Text) :
    ∃ sources rest,
      List.Forall₂ Comment.StandsOn
        (commentsOf (read delimiters withStrings policy content)) sources ∧
      sources.flatten ++ rest =
        contributing delimiters .outside (readableLines content) ∧
      (policy = .emit → rest = []) := by
  have hlines := pairwise_number_readableLines content
  have hnext : ∀ line ∈ readableLines content, 1 ≤ line.number := fun line hline =>
    (number_of_mem_readableLines hline).1
  obtain ⟨last, hsound⟩ := exists_sound_of_append (List.append_nil _).symm
  obtain ⟨sources, rest, hsources, hholds, hflatten⟩ :=
    exists_sources (BlockState.Sound.outside delimiters 1) holds_outside hlines hnext
  rw [commentsOf_read, commentsIn]
  cases policy with
  | discard =>
      refine ⟨sources, rest, ?_, hflatten, fun hemit => by contradiction⟩
      rwa [finish?, Option.toList_none, List.append_nil]
  | emit =>
      rw [finish?]
      by_cases hin : (stateAfter delimiters outside (readableLines content)).inBlock = true
      · obtain ⟨c, hc, hstands⟩ := hholds.exists_standsOn (hsound.inBlock_iff.mp hin)
        refine ⟨sources ++ [rest], [], ?_, ?_, fun _ => rfl⟩
        · rw [if_pos hin, hc]
          exact List.rel_append hsources (.cons hstands .nil)
        · rw [List.flatten_append, List.flatten_singleton, List.append_nil, hflatten]
          rfl
      · have hnil := hholds.eq_nil (hsound.held_eq_nil (Bool.eq_false_iff.mpr hin))
        refine ⟨sources, rest, ?_, hflatten, fun _ => hnil⟩
        rwa [if_neg hin, Option.toList_none, List.append_nil]

/-- The account of the comments of a document: the lines that they are made of, comment by
comment. `covers` says which lines these are, where a line is met in the state behind the
lines in front of it, and `passedOver` which lines inside a block are left out. -/
structure LineAccount (delimiters : DelimitedSyntax) (content : Text)
    (comments : List Comment) (sources : List (List NumberedLine)) : Prop where
  standsOn : List.Forall₂ Comment.StandsOn comments sources
  increasing : sources.flatten.Pairwise fun line later => line.number < later.number
  readable : sources.flatten.Sublist (readableLines content)
  covers : ∀ before line after, readableLines content = before ++ line :: after →
    (line ∈ sources.flatten ↔
      Contributes delimiters (stateAfter delimiters .outside before) line.text)
  passedOver : ∀ before line after, readableLines content = before ++ line :: after →
    (stateAfter delimiters .outside before).inBlock = true →
    (line ∉ sources.flatten ↔
      ∃ block ∈ delimiters.block, block.opening <+: line.text ∧ ¬block.closing <:+ line.text)
  apart : comments.Pairwise fun c next => c.endLine < next.startLine

/-- Inside a block only the lines that start with the opening delimiter and do not end with
the closing one contribute nothing. -/
theorem not_contributes_iff {next : Nat} (hsound : state.Sound delimiters next)
    (hin : state.inBlock = true) (text : Text) :
    ¬Contributes delimiters state text ↔
      ∃ block ∈ delimiters.block, block.opening <+: text ∧ ¬block.closing <:+ text := by
  obtain ⟨block, hblock⟩ := Option.isSome_iff_exists.mp (hsound.isSome_block hin)
  rw [contributes_of_inBlock hin]
  simp [hblock, and_comm]

/-- Every line that contributes to a comment gives one line of one body, in the order of
the document, and no other line does. -/
theorem exists_lineAccount (delimiters : DelimitedSyntax) (withStrings : Bool)
    (content : Text) :
    ∃ sources, LineAccount delimiters content
      (commentsOf (read delimiters withStrings .emit content)) sources := by
  obtain ⟨sources, rest, hsources, hflatten, hrest⟩ :=
    exists_sources_read delimiters withStrings .emit content
  rw [hrest rfl, List.append_nil] at hflatten
  have hlines := pairwise_number_readableLines content
  have hreadable : sources.flatten.Sublist (readableLines content) := by
    rw [hflatten]
    exact contributing_sublist _ _
  have hcovers : ∀ before line after, readableLines content = before ++ line :: after →
      (line ∈ sources.flatten ↔
        Contributes delimiters (stateAfter delimiters .outside before) line.text) := by
    intro before line after hsplit
    rw [hsplit, List.pairwise_append, List.pairwise_cons] at hlines
    obtain ⟨-, ⟨hafter, -⟩, hbefore⟩ := hlines
    rw [hflatten, hsplit]
    apply mem_contributing_iff
    · intro hmem
      exact Nat.lt_irrefl _ (hbefore line hmem line List.mem_cons_self)
    · intro hmem
      exact Nat.lt_irrefl _ (hafter line hmem)
  have hincreasing := hlines.sublist hreadable
  refine ⟨sources, hsources, hincreasing, hreadable, hcovers, ?_,
    pairwise_endLine_lt_startLine hsources hincreasing⟩
  intro before line after hsplit hin
  obtain ⟨next, hsound⟩ := exists_sound_of_append hsplit
  rw [hcovers before line after hsplit]
  exact not_contributes_iff hsound hin line.text

end Delimited

end LicenseText
