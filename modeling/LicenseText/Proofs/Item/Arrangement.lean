import Mathlib.Data.List.Chain
import LicenseText.Item.Order
import LicenseText.Proofs.Item.Joining
import LicenseText.Proofs.Item.Spans

/-!
# What joining and ordering keep

Joining neighbouring comments loses no line of a body and leaves gaps between the
comments that remain. When the comments stand in the order of the document, the joined
ones end on later and later lines, so ordering all items by their last lines does not
move one comment past another. `Arranges` collects what follows for the items of a
document.
-/

namespace LicenseText

/-! ## Joining -/

section Joining

variable {Line : Type}

def bodiesOf (comments : List (Comment Line)) : List Text := comments.flatMap Comment.body

theorem bodiesOf_cons (c : Comment Line) (comments : List (Comment Line)) :
    bodiesOf (c :: comments) = c.body ++ bodiesOf comments :=
  List.flatMap_cons

/-- There is a gap of at least one line between two comments. -/
def Comment.Apart [LT Line] [Add Line] [OfNat Line 1] (c next : Comment Line) : Prop :=
  c.endLine + 1 < next.startLine

variable [LE Line] [DecidableLE Line] [Add Line] [OfNat Line 1]
  (head : RankedComment Line) (comments : List (RankedComment Line))

theorem bodiesOf_joinOnto (groups : List (RankedComment Line)) :
    bodiesOf ((joinOnto head groups).map RankedComment.comment) =
      head.comment.body ++ bodiesOf (groups.map RankedComment.comment) := by
  cases groups with
  | nil => simp [joinOnto, bodiesOf]
  | cons group groups =>
      rw [joinOnto]
      split
      · simp [bodiesOf, Comment.join]
      · simp [bodiesOf]

theorem bodiesOf_joinRanked :
    bodiesOf ((joinRanked comments).map RankedComment.comment) =
      bodiesOf (comments.map RankedComment.comment) := by
  induction comments with
  | nil => rfl
  | cons head comments ih =>
      rw [joinRanked_cons, bodiesOf_joinOnto, ih]
      simp [bodiesOf]

theorem exists_infix_joinOnto (groups : List (RankedComment Line)) :
    (∃ group ∈ joinOnto head groups, head.comment.body <:+: group.comment.body) ∧
      ∀ old ∈ groups, ∃ group ∈ joinOnto head groups,
        old.comment.body <:+: group.comment.body := by
  cases groups with
  | nil => simp [joinOnto]
  | cons first groups =>
      rw [joinOnto]
      split
      · refine ⟨⟨_, List.mem_cons_self, List.infix_append_left⟩, ?_⟩
        intro old hold
        rcases List.mem_cons.mp hold with rfl | hold
        · exact ⟨_, List.mem_cons_self, List.infix_append_right⟩
        · exact ⟨old, List.mem_cons_of_mem _ hold, List.infix_refl _⟩
      · refine ⟨⟨head, List.mem_cons_self, List.infix_refl _⟩, ?_⟩
        intro old hold
        exact ⟨old, List.mem_cons_of_mem _ hold, List.infix_refl _⟩

/-- The lines of a comment stand one behind the other in one of the joined comments. -/
theorem exists_infix_joinRanked {comments : List (RankedComment Line)}
    {c : RankedComment Line} (h : c ∈ comments) :
    ∃ group ∈ joinRanked comments, c.comment.body <:+: group.comment.body := by
  induction comments with
  | nil => contradiction
  | cons head comments ih =>
      rw [joinRanked_cons]
      obtain ⟨hhead, hrest⟩ := exists_infix_joinOnto head (joinRanked comments)
      rcases List.mem_cons.mp h with rfl | h
      · exact hhead
      · obtain ⟨old, hold, hbody⟩ := ih h
        obtain ⟨group, hgroup, hinfix⟩ := hrest old hold
        exact ⟨group, hgroup, hbody.trans hinfix⟩

section Apart

variable [LT Line] [Std.IsLinearOrder Line] [Std.LawfulOrderLT Line]

theorem Comment.touches_eq_false_iff {c next : Comment Line} :
    c.touches next = false ↔ c.Apart next := by
  simp [touches, Apart, Std.not_le]

theorem Comment.touches_iff {c next : Comment Line} :
    c.touches next = true ↔ ¬c.Apart next := by
  rw [← touches_eq_false_iff, Bool.not_eq_false]

theorem isChain_apart_joinOnto {groups : List (RankedComment Line)}
    (h : (groups.map RankedComment.comment).IsChain Comment.Apart) :
    ((joinOnto head groups).map RankedComment.comment).IsChain Comment.Apart := by
  cases groups with
  | nil => simp [joinOnto]
  | cons group groups =>
      rw [joinOnto]
      split
      case isTrue htouch =>
        cases groups with
        | nil => simp
        | cons next groups => simpa [Comment.Apart, Comment.join] using h
      case isFalse htouch =>
        have happart : Comment.Apart head.comment group.comment :=
          Comment.touches_eq_false_iff.mp (Bool.eq_false_iff.mpr htouch)
        exact List.IsChain.cons_cons happart h

theorem isChain_apart_joinRanked :
    ((joinRanked comments).map RankedComment.comment).IsChain Comment.Apart := by
  induction comments with
  | nil => simp [joinRanked]
  | cons head comments ih =>
      rw [joinRanked_cons]
      exact isChain_apart_joinOnto head ih

end Apart

end Joining

/-! ## Comments in order -/

section InOrder

variable (head : RankedComment) (comments : List RankedComment)

theorem inOrder_joinOnto {groups : List RankedComment} {first last : Nat}
    (h : Comment.InOrder first last ((head :: groups).map RankedComment.comment)) :
    Comment.InOrder first last ((joinOnto head groups).map RankedComment.comment) := by
  cases groups with
  | nil => exact h
  | cons group groups =>
      rw [joinOnto]
      split
      · obtain ⟨hfirst, hhead, hbetween, hgroup, hrest⟩ := h
        exact ⟨hfirst, by simp only [Comment.join]; omega, hrest⟩
      · exact h

theorem inOrder_joinRanked {first last : Nat}
    (h : Comment.InOrder first last (comments.map RankedComment.comment)) :
    Comment.InOrder first last ((joinRanked comments).map RankedComment.comment) := by
  induction comments generalizing first with
  | nil => exact h
  | cons head comments ih =>
      obtain ⟨hfirst, hhead, hrest⟩ := h
      rw [joinRanked_cons]
      exact inOrder_joinOnto head ⟨hfirst, hhead, ih hrest⟩

/-- Comments that are in order and apart end on later and later lines. -/
theorem pairwise_endLine_of_inOrder {comments : List Comment} {first last : Nat}
    (horder : Comment.InOrder first last comments)
    (hapart : comments.IsChain Comment.Apart) :
    comments.Pairwise fun c next => c.endLine < next.endLine := by
  have hchain : comments.IsChain fun c next => c.endLine < next.endLine := by
    induction comments generalizing first with
    | nil => exact .nil
    | cons c rest ih =>
        obtain ⟨-, -, hrest⟩ := horder
        cases rest with
        | nil => exact .singleton _
        | cons next rest =>
            obtain ⟨hgap, hapart⟩ := List.isChain_cons_cons.mp hapart
            have hnext : next.startLine ≤ next.endLine := hrest.2.1
            have hlater : c.endLine < next.endLine := by
              rw [Comment.Apart] at hgap
              omega
            exact .cons_cons hlater (ih hrest hapart)
  have : Trans (fun c next : Comment => c.endLine < next.endLine)
      (fun c next : Comment => c.endLine < next.endLine)
      (fun c next : Comment => c.endLine < next.endLine) := ⟨Nat.lt_trans⟩
  exact List.isChain_iff_pairwise.mp hchain

end InOrder

/-! ## Ordering -/

namespace RankedItem

theorem precedes_trans (a b c : RankedItem) (hab : a.precedes b) (hbc : b.precedes c) :
    a.precedes c := by
  simp only [precedes, Bool.or_eq_true, Bool.and_eq_true, decide_eq_true_eq,
    beq_iff_eq] at *
  omega

theorem precedes_total (a b : RankedItem) : (a.precedes b || b.precedes a) = true := by
  simp only [precedes, Bool.or_eq_true, Bool.and_eq_true, decide_eq_true_eq, beq_iff_eq]
  omega

theorem lastLine_le_of_precedes {a b : RankedItem} (h : a.precedes b) :
    a.item.lastLine ≤ b.item.lastLine := by
  simp only [precedes, Bool.or_eq_true, Bool.and_eq_true, decide_eq_true_eq,
    beq_iff_eq] at h
  omega

end RankedItem

section Ordering

variable (found : List Item)

/-- The comments of a document, joined, with the ranks that decide their places. -/
def joinedComments : List RankedComment :=
  joinRanked ((rankItems found).filterMap RankedItem.comment?)

/-- The string literals of a document with their ranks. -/
def rankedStrings : List RankedItem := (rankItems found).filter RankedItem.isString

theorem map_item_rankItems : (rankItems found).map RankedItem.item = found := by
  simp [rankItems, Function.comp_def]

theorem map_comment_filterMap (ranked : List RankedItem) :
    (ranked.filterMap RankedItem.comment?).map RankedComment.comment =
      commentsOf (ranked.map RankedItem.item) := by
  simp only [commentsOf, List.map_filterMap, List.filterMap_map]
  congr 1
  funext r
  cases h : r.item.comment? <;> simp [RankedItem.comment?, h]

theorem stringsOf_filter_isString (ranked : List RankedItem) :
    stringsOf ((ranked.filter RankedItem.isString).map RankedItem.item) =
      stringsOf (ranked.map RankedItem.item) := by
  simp only [stringsOf, List.filterMap_map, List.filterMap_filter]
  congr 1
  funext r
  cases h : r.item.string? <;> simp [RankedItem.isString, h]

theorem commentsOf_filter_isString (ranked : List RankedItem) :
    commentsOf ((ranked.filter RankedItem.isString).map RankedItem.item) = [] := by
  simp only [commentsOf, List.filterMap_eq_nil_iff, List.mem_map, List.mem_filter]
  rintro item ⟨r, ⟨-, hstring⟩, rfl⟩
  cases h : r.item with
  | comment c => simp [RankedItem.isString, Item.string?, h] at hstring
  | string s => rfl

theorem commentsOf_toItem (comments : List RankedComment) :
    commentsOf ((comments.map RankedComment.toItem).map RankedItem.item) =
      comments.map RankedComment.comment := by
  induction comments with
  | nil => rfl
  | cons c comments ih =>
      rw [List.map_cons, List.map_cons, List.map_cons, ← ih]
      rfl

theorem stringsOf_toItem (comments : List RankedComment) :
    stringsOf ((comments.map RankedComment.toItem).map RankedItem.item) = [] := by
  induction comments with
  | nil => rfl
  | cons c comments ih => exact ih

/-- The joined comments and the string literals, not yet in order. -/
def unorderedItems : List RankedItem :=
  (joinedComments found).map RankedComment.toItem ++ rankedStrings found

theorem commentsOf_unorderedItems :
    commentsOf ((unorderedItems found).map RankedItem.item) =
      (joinedComments found).map RankedComment.comment := by
  rw [unorderedItems, List.map_append, commentsOf_append, commentsOf_toItem,
    rankedStrings, commentsOf_filter_isString, List.append_nil]

theorem stringsOf_unorderedItems :
    stringsOf ((unorderedItems found).map RankedItem.item) = stringsOf found := by
  rw [unorderedItems, List.map_append, stringsOf_append, stringsOf_toItem, rankedStrings,
    stringsOf_filter_isString, map_item_rankItems, List.nil_append]

/-- The items of a document with their ranks, in the order in which they are
delivered. -/
def orderedItems : List RankedItem :=
  (unorderedItems found).mergeSort RankedItem.precedes

theorem arrange_eq : arrange found = (orderedItems found).map RankedItem.item := rfl

@[simp] theorem arrange_nil : arrange [] = [] := by
  simp [arrange, rankItems, joinRanked]

theorem arrange_perm :
    (arrange found).Perm ((unorderedItems found).map RankedItem.item) :=
  (List.mergeSort_perm _ _).map RankedItem.item

theorem pairwise_lastLine_arrange :
    (arrange found).Pairwise fun a b => a.lastLine ≤ b.lastLine := by
  have hsorted : (orderedItems found).Pairwise fun a b => a.precedes b = true :=
    List.pairwise_mergeSort RankedItem.precedes_trans RankedItem.precedes_total _
  rw [arrange_eq, List.pairwise_map]
  exact hsorted.imp RankedItem.lastLine_le_of_precedes

theorem stringsOf_arrange : (stringsOf (arrange found)).Perm (stringsOf found) := by
  have hperm := stringsOf_perm (arrange_perm found)
  rwa [stringsOf_unorderedItems] at hperm

theorem commentsOf_arrange_perm :
    (commentsOf (arrange found)).Perm
      ((joinedComments found).map RankedComment.comment) := by
  have hperm := commentsOf_perm (arrange_perm found)
  rwa [commentsOf_unorderedItems] at hperm

theorem map_comment_rankedComments :
    ((rankItems found).filterMap RankedItem.comment?).map RankedComment.comment =
      commentsOf found := by
  rw [map_comment_filterMap, map_item_rankItems]

variable {found}

theorem exists_infix_arrange {c : Comment} (h : c ∈ commentsOf found) :
    ∃ whole ∈ commentsOf (arrange found), c.body <:+: whole.body := by
  rw [← map_comment_rankedComments] at h
  obtain ⟨ranked, hranked, rfl⟩ := List.mem_map.mp h
  obtain ⟨group, hgroup, hinfix⟩ := exists_infix_joinRanked hranked
  have hmem := (commentsOf_arrange_perm found).mem_iff.mpr (List.mem_map_of_mem hgroup)
  exact ⟨group.comment, hmem, hinfix⟩

theorem mem_bodiesOf_arrange (line : Text) :
    line ∈ bodiesOf (commentsOf (arrange found)) ↔ line ∈ bodiesOf (commentsOf found) := by
  have hperm := (commentsOf_arrange_perm found).flatMap_right Comment.body
  rw [bodiesOf, hperm.mem_iff, ← bodiesOf, joinedComments, bodiesOf_joinRanked,
    map_comment_rankedComments]

theorem inOrder_joinedComments {first last : Nat}
    (h : Comment.InOrder first last (commentsOf found)) :
    Comment.InOrder first last ((joinedComments found).map RankedComment.comment) := by
  apply inOrder_joinRanked
  rwa [map_comment_rankedComments]

theorem pairwise_precedes_joinedComments {first last : Nat}
    (h : Comment.InOrder first last (commentsOf found)) :
    ((joinedComments found).map RankedComment.toItem).Pairwise
      fun a b => a.precedes b = true := by
  have hends := pairwise_endLine_of_inOrder (inOrder_joinedComments h)
    (isChain_apart_joinRanked _)
  rw [List.pairwise_map] at hends ⊢
  refine hends.imp ?_
  intro a b hlater
  simp [RankedItem.precedes, RankedComment.toItem, Item.lastLine, hlater]

/-- Ordering the items of a document leaves its joined comments in their order. -/
theorem commentsOf_arrange {first last : Nat}
    (h : Comment.InOrder first last (commentsOf found)) :
    commentsOf (arrange found) = (joinedComments found).map RankedComment.comment := by
  have hsorted :
      ((joinedComments found).map RankedComment.toItem).Sublist (orderedItems found) :=
    List.sublist_mergeSort RankedItem.precedes_trans RankedItem.precedes_total
      (pairwise_precedes_joinedComments h) (List.sublist_append_left _ _)
  have hsublist := commentsOf_sublist (hsorted.map RankedItem.item)
  rw [commentsOf_toItem, ← arrange_eq] at hsublist
  have hlength := (commentsOf_perm (arrange_perm found)).length_eq
  rw [commentsOf_unorderedItems] at hlength
  exact (hsublist.eq_of_length hlength.symm).symm

/-- Arranged comments are between the lines between which the comments were found. -/
theorem inOrder_arrange {first last : Nat}
    (h : Comment.InOrder first last (commentsOf found)) :
    Comment.InOrder first last (commentsOf (arrange found)) := by
  rw [commentsOf_arrange h]
  exact inOrder_joinedComments h

end Ordering

/-- The items `on` are the items `off` with neighbouring comments joined and all items in
the order of their last lines, and nothing is lost or duplicated. -/
structure Arranges (on off : List Item) : Prop where
  strings : (stringsOf on).Perm (stringsOf off)
  bodies : bodiesOf (commentsOf on) = bodiesOf (commentsOf off)
  ordered : on.Pairwise fun a b => a.lastLine ≤ b.lastLine
  apart : (commentsOf on).IsChain Comment.Apart

theorem arranges_arrange {found : List Item} {first last : Nat}
    (h : Comment.InOrder first last (commentsOf found)) :
    Arranges (arrange found) found where
  strings := stringsOf_arrange found
  bodies := by
    rw [commentsOf_arrange h, joinedComments, bodiesOf_joinRanked,
      map_comment_rankedComments]
  ordered := pairwise_lastLine_arrange found
  apart := by
    rw [commentsOf_arrange h]
    exact isChain_apart_joinRanked _

end LicenseText
