import LicenseText.Item.Joining

/-!
# Joining from the right

Whether two neighbours are joined is decided by their lines alone, whatever has been joined
before them. So the groups may as well be built from the right: `joinOnto` puts a comment in
front of the groups that follow it, and `joinRanked` does nothing else with each comment.
-/

namespace LicenseText

variable {Line : Type}

namespace Comment

theorem join_assoc (a b c : Comment Line) : (a.join b).join c = a.join (b.join c) := by
  simp [join]

variable [LE Line] [DecidableLE Line] [Add Line] [OfNat Line 1]

theorem join_touches (a b c : Comment Line) : (a.join b).touches c = b.touches c := rfl

theorem touches_join (a b c : Comment Line) : a.touches (b.join c) = a.touches b := rfl

end Comment

variable [LE Line] [DecidableLE Line] [Add Line] [OfNat Line 1]

/-- Puts a comment in front of groups already joined. -/
def joinOnto (head : RankedComment Line) :
    List (RankedComment Line) → List (RankedComment Line)
  | [] => [head]
  | group :: groups =>
    if head.comment.touches group.comment then
      ⟨group.rank, head.comment.join group.comment⟩ :: groups
    else head :: group :: groups

variable {head group : RankedComment Line}

/-- Two comments that are joined first go in front of the groups as one after the other. -/
theorem joinOnto_join (h : head.comment.touches group.comment = true)
    (groups : List (RankedComment Line)) :
    joinOnto ⟨group.rank, head.comment.join group.comment⟩ groups =
      joinOnto head (joinOnto group groups) := by
  cases groups with
  | nil =>
      rw [joinOnto, joinOnto, joinOnto, if_pos h]
  | cons next groups =>
      rw [joinOnto, Comment.join_touches, joinOnto]
      split
      · rw [joinOnto, Comment.touches_join, if_pos h, Comment.join_assoc]
      · rw [joinOnto, if_pos h]

/-- A comment that stands apart from the next one stays in front of the group that starts
with it. -/
theorem joinOnto_joinOnto_of_not_touches (h : ¬head.comment.touches group.comment = true)
    (groups : List (RankedComment Line)) :
    joinOnto head (joinOnto group groups) = head :: joinOnto group groups := by
  cases groups with
  | nil => rw [joinOnto, joinOnto, if_neg h]
  | cons next groups =>
      rw [joinOnto]
      split
      · rw [joinOnto, Comment.touches_join, if_neg h]
      · rw [joinOnto, if_neg h]

theorem joinFrom_eq_joinOnto (head : RankedComment Line)
    (comments : List (RankedComment Line)) :
    joinFrom head comments = joinOnto head (joinRanked comments) := by
  induction comments generalizing head with
  | nil => rfl
  | cons next rest ih =>
      rw [joinFrom, joinRanked, ih next]
      split
      case isTrue htouches => rw [ih, joinOnto_join htouches]
      case isFalse htouches => rw [joinOnto_joinOnto_of_not_touches htouches]

theorem joinRanked_cons (head : RankedComment Line) (comments : List (RankedComment Line)) :
    joinRanked (head :: comments) = joinOnto head (joinRanked comments) :=
  joinFrom_eq_joinOnto head comments

/-- Joining from the left is joining from the right. -/
theorem joinRanked_eq_foldr (comments : List (RankedComment Line)) :
    joinRanked comments = comments.foldr joinOnto [] := by
  induction comments with
  | nil => rfl
  | cons head comments ih => rw [joinRanked_cons, List.foldr_cons, ih]

end LicenseText
