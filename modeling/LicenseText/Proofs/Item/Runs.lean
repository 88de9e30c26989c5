import Mathlib.Data.List.SplitBy
import LicenseText.Proofs.Item.WordLines

/-!
# Runs of neighbouring comments

Joining cuts a list of comments at its gaps, that is, between two neighbours of which the
second starts behind the line that follows the first (`CutAtGaps`). What is left whole is a
run, and each run becomes one comment (`JoinsRun`). Nothing is asked of the lines of the
comments: they need not be in order, and comments may overlap. Where the list is cut is
decided by two neighbours alone, whatever has been joined before them.
-/

namespace LicenseText

variable {Line : Type}

/-- The runs into which the gaps between neighbours cut the comments. -/
structure CutAtGaps [LT Line] [Add Line] [OfNat Line 1]
    (comments : List (RankedComment Line)) (runs : List (List (RankedComment Line))) :
    Prop where
  flatten : runs.flatten = comments
  nonempty : [] ∉ runs
  within : ∀ run ∈ runs, run.IsChain fun c next => ¬c.comment.Apart next.comment
  between : runs.IsChain fun run next =>
    ∃ hrun hnext, Comment.Apart (run.getLast hrun).comment (next.head hnext).comment

/-- The comment `joined` consists of the comments of the run. -/
structure JoinsRun (run : List (RankedComment Line)) (joined : RankedComment Line) :
    Prop where
  ne_nil : run ≠ []
  startLine : joined.comment.startLine = (run.head ne_nil).comment.startLine
  endLine : joined.comment.endLine = (run.getLast ne_nil).comment.endLine
  rank : joined.rank = (run.getLast ne_nil).rank
  body : joined.comment.body = bodiesOf (run.map RankedComment.comment)
  multiline : 2 ≤ run.length → joined.comment.multiline = true
  alone : ∀ c, run = [c] → joined = c

variable {comments run : List (RankedComment Line)} {c joined : RankedComment Line}

namespace JoinsRun

theorem single (c : RankedComment Line) : JoinsRun [c] c where
  ne_nil := List.cons_ne_nil _ _
  startLine := rfl
  endLine := rfl
  rank := rfl
  body := by simp [bodiesOf]
  multiline := by simp
  alone := by simp

/-- A comment in front of a run is the first comment of the longer run. -/
theorem cons (h : JoinsRun run joined) (c : RankedComment Line) :
    JoinsRun (c :: run) ⟨joined.rank, c.comment.join joined.comment⟩ where
  ne_nil := List.cons_ne_nil _ _
  startLine := rfl
  endLine := by
    rw [List.getLast_cons h.ne_nil]
    exact h.endLine
  rank := by
    rw [List.getLast_cons h.ne_nil]
    exact h.rank
  body := by
    rw [List.map_cons, bodiesOf_cons, ← h.body]
    rfl
  multiline := fun _ => rfl
  alone := fun _ hsingle => absurd (List.cons.inj hsingle).2 h.ne_nil

end JoinsRun

section Runs

variable [LE Line] [DecidableLE Line] [LT Line] [Std.IsLinearOrder Line]
  [Std.LawfulOrderLT Line] [Add Line] [OfNat Line 1]

/-- Comments can be cut at their gaps in one way only. -/
theorem cutAtGaps_iff {runs : List (List (RankedComment Line))} :
    CutAtGaps comments runs ↔
      runs = comments.splitBy fun c next => c.comment.touches next.comment := by
  rw [eq_comm, List.splitBy_eq_iff]
  simp only [Comment.touches_iff, Comment.touches_eq_false_iff]
  constructor
  · rintro ⟨hflatten, hnonempty, hwithin, hbetween⟩
    exact ⟨hflatten.symm, hnonempty, hwithin, hbetween⟩
  · rintro ⟨hflatten, hnonempty, hwithin, hbetween⟩
    exact ⟨hflatten.symm, hnonempty, hwithin, hbetween⟩

/-- A run is joined into one comment in front of groups that start behind a gap. -/
theorem exists_joinsRun {groups : List (RankedComment Line)} (hne : run ≠ [])
    (hwithin : run.IsChain fun c next => ¬c.comment.Apart next.comment)
    (hgap : ∀ group ∈ groups.head?, (run.getLast hne).comment.Apart group.comment) :
    ∃ joined, JoinsRun run joined ∧ run.foldr joinOnto groups = joined :: groups := by
  induction run with
  | nil => contradiction
  | cons c run ih =>
      cases run with
      | nil =>
          refine ⟨c, JoinsRun.single c, ?_⟩
          cases groups with
          | nil => rfl
          | cons group groups =>
              have happart : c.comment.Apart group.comment := hgap group rfl
              rw [List.foldr_cons, List.foldr_nil, joinOnto,
                Comment.touches_eq_false_iff.mpr happart, if_neg Bool.false_ne_true]
      | cons next run =>
          obtain ⟨hnext, hrest⟩ := List.isChain_cons_cons.mp hwithin
          have hlast := List.getLast_cons (a := c) (List.cons_ne_nil next run)
          obtain ⟨joined, hjoins, hfold⟩ :=
            ih (List.cons_ne_nil _ _) hrest (by rwa [hlast] at hgap)
          refine ⟨_, hjoins.cons c, ?_⟩
          have htouches : c.comment.touches joined.comment = true := by
            rw [Comment.touches_iff, Comment.Apart, hjoins.startLine]
            exact hnext
          rw [List.foldr_cons, hfold, joinOnto, if_pos htouches]

/-- Comments cut at their gaps are joined run by run. -/
theorem forall₂_joinsRun {runs : List (List (RankedComment Line))}
    (h : CutAtGaps comments runs) : List.Forall₂ JoinsRun runs (joinRanked comments) := by
  induction runs generalizing comments with
  | nil =>
      obtain rfl : comments = [] := h.flatten.symm
      exact .nil
  | cons run runs ih =>
      have hne : run ≠ [] := fun hnil => h.nonempty (hnil ▸ List.mem_cons_self)
      have hrest : CutAtGaps runs.flatten runs :=
        { flatten := rfl
          nonempty := fun hnil => h.nonempty (List.mem_cons_of_mem _ hnil)
          within := fun later hlater => h.within later (List.mem_cons_of_mem _ hlater)
          between := h.between.tail }
      have hgroups := ih hrest
      rw [← h.flatten, List.flatten_cons, joinRanked_eq_foldr, List.foldr_append,
        ← joinRanked_eq_foldr]
      generalize joinRanked runs.flatten = groups at hgroups
      have hgap : ∀ group ∈ groups.head?,
          (run.getLast hne).comment.Apart group.comment := by
        intro group hgroup
        cases hgroups with
        | nil => contradiction
        | cons hjoins _ =>
            obtain rfl := Option.some.inj hgroup
            obtain ⟨⟨_, _, happart⟩, -⟩ := List.isChain_cons_cons.mp h.between
            rw [Comment.Apart, hjoins.startLine]
            exact happart
      obtain ⟨joined, hjoins, hfold⟩ :=
        exists_joinsRun hne (h.within run List.mem_cons_self) hgap
      rw [hfold]
      exact .cons hjoins hgroups

end Runs

/-- Joining cuts the comments at their gaps, in the one way in which this can be done, and
makes one comment of each run. A gap is told by the lines as machine words: the second
comment starts behind the word that follows the last line of the first. -/
theorem joinRanked_runs (comments : List (RankedComment UInt64)) :
    (∃ runs, (∀ cuts, CutAtGaps comments cuts ↔ cuts = runs) ∧
        List.Forall₂ JoinsRun runs (joinRanked comments)) ∧
      ∀ c next : Comment UInt64,
        c.Apart next ↔ (c.endLine.toNat + 1) % UInt64.size < next.startLine.toNat :=
  ⟨⟨_, fun _ => cutAtGaps_iff, forall₂_joinsRun (cutAtGaps_iff.mpr rfl)⟩,
    fun _ _ => Comment.apart_iff_toNat⟩

/-- Comments that go back in the document are joined as well, and end where the last one ends. -/
example :
    joinRanked [⟨0, .onLine ['a'] 5⟩, ⟨1, .onLine ['b'] 2⟩, ⟨4, .onLine ['c'] 3⟩,
        ⟨7, .onLine ['d'] 5⟩] =
      [⟨4, ⟨[['a'], ['b'], ['c']], 5, 3, true⟩⟩, ⟨7, .onLine ['d'] 5⟩] := by
  decide

end LicenseText
