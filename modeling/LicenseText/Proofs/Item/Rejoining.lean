import LicenseText.Proofs.Item.CommentsOnly

/-!
# Joining in pieces

A joined comment meets the comments around it as its parts do: towards those in front of it
with its first part, towards those behind it with its last. So it does not matter to
`joinRanked` whether some of its comments have been joined already
(`foldr_joinOnto_joinRanked`), wherever the list was divided for that and whatever the lines
of the comments are.
-/

namespace LicenseText

theorem map_comment_rankByPosition {Line : Type} (comments : List (Comment Line)) :
    (rankByPosition comments).map RankedComment.comment = comments := by
  simp [rankByPosition, Function.comp_def]

section Rejoining

variable {Line : Type} [LE Line] [DecidableLE Line] [Add Line] [OfNat Line 1]

/-- A comment may be joined to the first of several groups before these go in front of
others, or after it. -/
theorem foldr_joinOnto_joinOnto (head : RankedComment Line)
    (xs groups : List (RankedComment Line)) :
    (joinOnto head xs).foldr joinOnto groups =
      joinOnto head (xs.foldr joinOnto groups) := by
  cases xs with
  | nil => rfl
  | cons group xs =>
      rw [joinOnto]
      split
      case isTrue htouches =>
        rw [List.foldr_cons, joinOnto_join htouches, List.foldr_cons]
      case isFalse => rfl

/-- Comments go in front of groups in the same way when they are joined among themselves
first. -/
theorem foldr_joinOnto_joinRanked (xs groups : List (RankedComment Line)) :
    (joinRanked xs).foldr joinOnto groups = xs.foldr joinOnto groups := by
  induction xs with
  | nil => rfl
  | cons head xs ih =>
      rw [joinRanked_cons, foldr_joinOnto_joinOnto, ih, List.foldr_cons]

theorem joinRanked_append_eq_foldr (xs ys : List (RankedComment Line)) :
    joinRanked (xs ++ ys) = xs.foldr joinOnto (joinRanked ys) := by
  rw [joinRanked_eq_foldr, List.foldr_append, ← joinRanked_eq_foldr]

theorem joinRanked_joinRanked (comments : List (RankedComment Line)) :
    joinRanked (joinRanked comments) = joinRanked comments := by
  rw [joinRanked_eq_foldr, foldr_joinOnto_joinRanked, ← joinRanked_eq_foldr]

theorem joinComments_joinComments (comments : List (Comment Line)) :
    joinComments (joinComments comments) = joinComments comments := by
  have hranks : (joinRanked (rankByPosition (joinComments comments))).map
        RankedComment.comment =
      (joinRanked (joinRanked (rankByPosition comments))).map RankedComment.comment :=
    map_comment_joinRanked_congr (map_comment_rankByPosition _)
  calc joinComments (joinComments comments)
      = (joinRanked (joinRanked (rankByPosition comments))).map RankedComment.comment :=
        hranks
    _ = joinComments comments := by rw [joinRanked_joinRanked]; rfl

end Rejoining

/-- Comments may be joined in two parts, and the joined parts with one another. In
particular nothing is left to join among joined comments, between which there are gaps. All
of this holds of lines in machine words, also where the line behind the last word is line
zero. -/
theorem joinRanked_append (xs ys : List (RankedComment UInt64)) :
    joinRanked (xs ++ ys) = joinRanked (joinRanked xs ++ joinRanked ys) ∧
      joinRanked (joinRanked xs) = joinRanked xs ∧
      ((joinRanked xs).map RankedComment.comment).IsChain Comment.Apart ∧
      ∀ comments : List (Comment UInt64),
        joinComments (joinComments comments) = joinComments comments ∧
          (joinComments comments).IsChain Comment.Apart := by
  refine ⟨?_, joinRanked_joinRanked xs, isChain_apart_joinRanked xs, ?_⟩
  · calc joinRanked (xs ++ ys)
        = xs.foldr joinOnto (joinRanked ys) := joinRanked_append_eq_foldr xs ys
      _ = (joinRanked xs).foldr joinOnto (joinRanked (joinRanked ys)) := by
          rw [foldr_joinOnto_joinRanked, joinRanked_joinRanked]
      _ = joinRanked (joinRanked xs ++ joinRanked ys) :=
          (joinRanked_append_eq_foldr _ _).symm
  · intro comments
    exact ⟨joinComments_joinComments comments,
      isChain_apart_joinRanked (rankByPosition comments)⟩

end LicenseText
