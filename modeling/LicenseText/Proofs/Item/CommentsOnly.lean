import LicenseText.Proofs.Item.Arrangement

/-!
# Items without their string literals

A document read without strings has the comments alone. Joining and ordering treat the
comments of a document in the same way whether strings stand between them or not: the
ranks of the comments change with the strings, but which comments are joined depends on
their lines, and the joined comments keep their order.
-/

namespace LicenseText

def Item.isComment (item : Item) : Bool := item.comment?.isSome

@[simp] theorem Item.isComment_comment (c : Comment) : (Item.comment c).isComment = true :=
  rfl

@[simp] theorem Item.isComment_string (s : StringLiteral) :
    (Item.string s).isComment = false := rfl

theorem filter_isComment_eq_map (items : List Item) :
    items.filter Item.isComment = (commentsOf items).map Item.comment := by
  induction items with
  | nil => rfl
  | cons item items ih =>
      cases item with
      | comment c =>
          rw [List.filter_cons_of_pos (Item.isComment_comment c), ih]
          rfl
      | string s =>
          have hstring : ¬(Item.string s).isComment = true := by simp
          rw [List.filter_cons_of_neg hstring, ih]
          rfl

@[simp] theorem commentsOf_filter_isComment (items : List Item) :
    commentsOf (items.filter Item.isComment) = commentsOf items := by
  rw [filter_isComment_eq_map, commentsOf, List.filterMap_map]
  exact List.filterMap_some

@[simp] theorem stringsOf_filter_isComment (items : List Item) :
    stringsOf (items.filter Item.isComment) = [] := by
  rw [filter_isComment_eq_map, stringsOf, List.filterMap_map]
  exact List.filterMap_none _

theorem filter_isComment_eq_self {items : List Item} (h : stringsOf items = []) :
    items.filter Item.isComment = items := by
  rw [List.filter_eq_self]
  intro item hitem
  cases item with
  | comment c => rfl
  | string s =>
      have hs : s ∈ stringsOf items := mem_stringsOf.mpr hitem
      rw [h] at hs
      contradiction

/-! ## Joining does not look at ranks -/

section Ranks

variable {Line : Type} [LE Line] [DecidableLE Line] [Add Line] [OfNat Line 1]

theorem map_comment_joinOnto_congr {head head' : RankedComment Line}
    {groups groups' : List (RankedComment Line)} (hhead : head.comment = head'.comment)
    (hgroups : groups.map RankedComment.comment = groups'.map RankedComment.comment) :
    (joinOnto head groups).map RankedComment.comment =
      (joinOnto head' groups').map RankedComment.comment := by
  cases groups with
  | nil =>
      obtain rfl : groups' = [] := by simpa using hgroups
      simp [joinOnto, hhead]
  | cons group rest =>
      cases groups' with
      | nil => simp at hgroups
      | cons group' rest' =>
          obtain ⟨hgroup, hrest⟩ := List.cons.inj hgroups
          rw [joinOnto, joinOnto, hhead, hgroup]
          split
          · simp [hrest]
          · simp [hhead, hgroup, hrest]

/-- Which comments are joined, and to what, does not depend on their ranks. -/
theorem map_comment_joinRanked_congr {ranked ranked' : List (RankedComment Line)}
    (h : ranked.map RankedComment.comment = ranked'.map RankedComment.comment) :
    (joinRanked ranked).map RankedComment.comment =
      (joinRanked ranked').map RankedComment.comment := by
  induction ranked generalizing ranked' with
  | nil =>
      obtain rfl : ranked' = [] := by simpa using h
      rfl
  | cons head rest ih =>
      cases ranked' with
      | nil => simp at h
      | cons head' rest' =>
          obtain ⟨hhead, hrest⟩ := List.cons.inj h
          rw [joinRanked_cons, joinRanked_cons]
          exact map_comment_joinOnto_congr hhead (ih hrest)

end Ranks

theorem map_comment_joinedComments_congr {found found' : List Item}
    (h : commentsOf found = commentsOf found') :
    (joinedComments found).map RankedComment.comment =
      (joinedComments found').map RankedComment.comment := by
  apply map_comment_joinRanked_congr
  rw [map_comment_rankedComments, map_comment_rankedComments, h]

/-- Leaving out the strings of a document before its items are arranged, or afterwards,
is the same. -/
theorem arrange_filter_isComment {found : List Item} {first last : Nat}
    (h : Comment.InOrder first last (commentsOf found)) :
    arrange (found.filter Item.isComment) = (arrange found).filter Item.isComment := by
  have hnone : stringsOf (arrange (found.filter Item.isComment)) = [] := by
    have hperm := stringsOf_arrange (found.filter Item.isComment)
    rwa [stringsOf_filter_isComment, List.perm_nil] at hperm
  have hcomments : commentsOf (arrange (found.filter Item.isComment)) =
      commentsOf (arrange found) := by
    rw [commentsOf_arrange h, commentsOf_arrange (by rwa [commentsOf_filter_isComment])]
    exact map_comment_joinedComments_congr (commentsOf_filter_isComment found)
  calc arrange (found.filter Item.isComment)
      = (arrange (found.filter Item.isComment)).filter Item.isComment :=
        (filter_isComment_eq_self hnone).symm
    _ = (commentsOf (arrange (found.filter Item.isComment))).map Item.comment :=
        filter_isComment_eq_map _
    _ = (commentsOf (arrange found)).map Item.comment := by rw [hcomments]
    _ = (arrange found).filter Item.isComment := (filter_isComment_eq_map _).symm

end LicenseText
