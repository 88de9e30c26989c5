import Mathlib.Data.List.Nodup
import LicenseText.Proofs.Item.StringOrder

/-!
# Joining comments in place

`joinInPlace` joins neighbouring comments and moves nothing: each group of comments stands
at the place of its last comment, and all other items keep theirs. When the items were found
on lines that do not decrease, ordering them by their lines does just this
(`orderedItems_eq_joinInPlace`): a joined comment has the line and the rank of its last
part, so the lines and ranks that remain are as ordered as those that were found.
-/

namespace LicenseText

/-- The items with the comment joined to the first comment among them, at the place of that
one, if it reaches as far. -/
def joinToFirst? (c : Comment) : List RankedItem → Option (List RankedItem)
  | [] => none
  | ⟨rank, .string s⟩ :: rest => (joinToFirst? c rest).map (⟨rank, .string s⟩ :: ·)
  | ⟨rank, .comment next⟩ :: rest =>
    if c.touches next then some (⟨rank, .comment (c.join next)⟩ :: rest) else none

/-- The items with neighbouring comments joined. Each group of comments stands at the place
of its last comment, and all other items keep their places. -/
def joinInPlace : List RankedItem → List RankedItem
  | [] => []
  | ⟨rank, .string s⟩ :: rest => ⟨rank, .string s⟩ :: joinInPlace rest
  | ⟨rank, .comment c⟩ :: rest =>
    (joinToFirst? c (joinInPlace rest)).getD (⟨rank, .comment c⟩ :: joinInPlace rest)

namespace RankedItem

/-- What decides the place of an item. -/
def place (r : RankedItem) : Nat × Nat := (r.rank, r.item.lastLine)

end RankedItem

/-! ## What is joined -/

section Joining

variable {c : Comment} {items joined : List RankedItem}

/-- A comment that is joined takes no place. -/
theorem map_place_joinToFirst? (h : joinToFirst? c items = some joined) :
    joined.map RankedItem.place = items.map RankedItem.place := by
  induction items generalizing joined with
  | nil => contradiction
  | cons r rest ih =>
      obtain ⟨rank, item⟩ := r
      cases item with
      | string s =>
          obtain ⟨later, hlater, rfl⟩ := Option.map_eq_some_iff.mp h
          rw [List.map_cons, List.map_cons, ih hlater]
      | comment next =>
          rw [joinToFirst?] at h
          split at h
          · obtain rfl := Option.some.inj h
            rfl
          · contradiction

/-- The items that remain stand at places of their own. -/
theorem map_place_joinInPlace (items : List RankedItem) :
    ((joinInPlace items).map RankedItem.place).Sublist (items.map RankedItem.place) := by
  induction items with
  | nil => exact .refl _
  | cons r rest ih =>
      obtain ⟨rank, item⟩ := r
      cases item with
      | string s => exact ih.cons_cons _
      | comment c =>
          rw [joinInPlace]
          cases hjoined : joinToFirst? c (joinInPlace rest) with
          | none => exact ih.cons_cons _
          | some joined =>
              rw [Option.getD_some, map_place_joinToFirst? hjoined]
              exact ih.cons _

theorem filter_isString_joinToFirst? (h : joinToFirst? c items = some joined) :
    joined.filter RankedItem.isString = items.filter RankedItem.isString := by
  induction items generalizing joined with
  | nil => contradiction
  | cons r rest ih =>
      obtain ⟨rank, item⟩ := r
      cases item with
      | string s =>
          obtain ⟨later, hlater, rfl⟩ := Option.map_eq_some_iff.mp h
          have hstring : RankedItem.isString ⟨rank, .string s⟩ = true := rfl
          rw [List.filter_cons_of_pos hstring, List.filter_cons_of_pos hstring, ih hlater]
      | comment next =>
          rw [joinToFirst?] at h
          split at h
          · obtain rfl := Option.some.inj h
            rfl
          · contradiction

/-- The string literals stay as they are. -/
theorem filter_isString_joinInPlace (items : List RankedItem) :
    (joinInPlace items).filter RankedItem.isString = items.filter RankedItem.isString := by
  induction items with
  | nil => rfl
  | cons r rest ih =>
      obtain ⟨rank, item⟩ := r
      cases item with
      | string s =>
          have hstring : RankedItem.isString ⟨rank, .string s⟩ = true := rfl
          rw [joinInPlace, List.filter_cons_of_pos hstring, List.filter_cons_of_pos hstring, ih]
      | comment c =>
          have hcomment : ¬RankedItem.isString ⟨rank, .comment c⟩ = true := by
            simp [RankedItem.isString, Item.string?]
          rw [joinInPlace, List.filter_cons_of_neg hcomment]
          cases hjoined : joinToFirst? c (joinInPlace rest) with
          | none => rw [Option.getD_none, List.filter_cons_of_neg hcomment, ih]
          | some joined => rw [Option.getD_some, filter_isString_joinToFirst? hjoined, ih]

/-- Joining to the first comment is joining in front of the comments alone. -/
theorem joinOnto_filterMap (rank : Nat) (c : Comment) (items : List RankedItem) :
    joinOnto ⟨rank, c⟩ (items.filterMap RankedItem.comment?) =
      ((joinToFirst? c items).getD (⟨rank, .comment c⟩ :: items)).filterMap
        RankedItem.comment? := by
  induction items with
  | nil => rfl
  | cons r rest ih =>
      obtain ⟨place, item⟩ := r
      cases item with
      | string s =>
          have hrest : (⟨place, .string s⟩ :: rest).filterMap RankedItem.comment? =
              rest.filterMap RankedItem.comment? := rfl
          rw [hrest, ih, joinToFirst?]
          cases joinToFirst? c rest with
          | none => rfl
          | some joined => rfl
      | comment next =>
          have hrest : (⟨place, .comment next⟩ :: rest).filterMap RankedItem.comment? =
              ⟨place, next⟩ :: rest.filterMap RankedItem.comment? := rfl
          rw [hrest, joinOnto, joinToFirst?]
          split
          · rfl
          · rfl

/-- The groups are those of the comments alone. -/
theorem filterMap_comment?_joinInPlace (items : List RankedItem) :
    (joinInPlace items).filterMap RankedItem.comment? =
      joinRanked (items.filterMap RankedItem.comment?) := by
  induction items with
  | nil => rfl
  | cons r rest ih =>
      obtain ⟨rank, item⟩ := r
      cases item with
      | string s => exact ih
      | comment c =>
          have hrest : (⟨rank, .comment c⟩ :: rest).filterMap RankedItem.comment? =
              ⟨rank, c⟩ :: rest.filterMap RankedItem.comment? := rfl
          rw [hrest, joinRanked_cons, ← ih, joinOnto_filterMap]
          rfl

end Joining

/-! ## Ordering -/

theorem map_toItem_filterMap (items : List RankedItem) :
    (items.filterMap RankedItem.comment?).map RankedComment.toItem =
      items.filter fun r => !r.isString := by
  induction items with
  | nil => rfl
  | cons r rest ih =>
      obtain ⟨rank, item⟩ := r
      cases item with
      | comment c => exact congrArg (⟨rank, .comment c⟩ :: ·) ih
      | string s => exact ih

variable {found : List Item}

/-- Of the items `placed` with their places in the order of discovery, the comments are the
groups of neighbouring comments of the items `found`, each with the rank of its last one, and
the strings are those that were found, where they were found. -/
structure JoinsInPlace (found : List Item) (placed : List RankedItem) : Prop where
  groups : placed.filterMap RankedItem.comment? = joinedComments found
  strings : placed.filter RankedItem.isString = rankedStrings found
  increasing : placed.Pairwise fun a b => a.rank < b.rank

theorem joinsInPlace (found : List Item) :
    JoinsInPlace found (joinInPlace (rankItems found)) where
  groups := filterMap_comment?_joinInPlace _
  strings := filter_isString_joinInPlace _
  increasing := by
    have hranks : ((joinInPlace (rankItems found)).map RankedItem.rank).Sublist
        ((rankItems found).map RankedItem.rank) := by
      have hplaces := (map_place_joinInPlace (rankItems found)).map Prod.fst
      rwa [List.map_map, List.map_map] at hplaces
    rw [map_rank_rankItems] at hranks
    exact List.pairwise_map.mp ((List.pairwise_lt_range' 1).sublist hranks)

theorem JoinsInPlace.perm {placed : List RankedItem} (h : JoinsInPlace found placed) :
    (unorderedItems found).Perm placed := by
  rw [unorderedItems, ← h.groups, ← h.strings, map_toItem_filterMap]
  exact List.perm_append_comm.trans (List.filter_append_perm _ _)

/-- Items found on lines that do not decrease are in the order of delivery once their
comments are joined in place. -/
theorem pairwise_precedes_joinInPlace
    (h : found.Pairwise fun a b => a.lastLine ≤ b.lastLine) :
    (joinInPlace (rankItems found)).Pairwise fun a b => a.precedes b = true := by
  have hlines : (rankItems found).Pairwise fun a b => a.item.lastLine ≤ b.item.lastLine := by
    rwa [← map_item_rankItems found, List.pairwise_map] at h
  have hplaces : ((rankItems found).map RankedItem.place).Pairwise
      fun a b => a.1 ≤ b.1 ∧ a.2 ≤ b.2 :=
    List.pairwise_map.mpr ((pairwise_rank_rankItems found).and hlines)
  refine (List.pairwise_map.mp (hplaces.sublist (map_place_joinInPlace _))).imp ?_
  rintro a b ⟨hrank, hline⟩
  simp only [RankedItem.place] at hrank hline
  simp only [RankedItem.precedes, Bool.or_eq_true, Bool.and_eq_true, decide_eq_true_eq,
    beq_iff_eq]
  omega

/-- Ordering items that were found on lines that do not decrease moves nothing. -/
theorem orderedItems_eq_joinInPlace
    (h : found.Pairwise fun a b => a.lastLine ≤ b.lastLine) :
    orderedItems found = joinInPlace (rankItems found) := by
  have hperm : (orderedItems found).Perm (joinInPlace (rankItems found)) :=
    (List.mergeSort_perm _ _).trans (joinsInPlace found).perm
  have hsorted : (orderedItems found).Pairwise fun a b => a.precedes b = true :=
    List.pairwise_mergeSort RankedItem.precedes_trans RankedItem.precedes_total _
  refine List.Perm.eq_of_pairwise ?_ hsorted (pairwise_precedes_joinInPlace h) hperm
  intro a b ha hb hab hba
  -- items that may stand on either side of each other have the same rank
  have hrank : a.rank = b.rank := by
    simp only [RankedItem.precedes, Bool.or_eq_true, Bool.and_eq_true, decide_eq_true_eq,
      beq_iff_eq] at hab hba
    omega
  have hnodup : ((joinInPlace (rankItems found)).map RankedItem.rank).Nodup :=
    List.pairwise_map.mpr ((joinsInPlace found).increasing.imp Nat.ne_of_lt)
  exact List.inj_on_of_nodup_map hnodup (hperm.mem_iff.mp ha) hb hrank

/-- A string between two comments that are joined comes to stand in front of them. -/
example :
    (joinInPlace (rankItems [.comment (.onLine ['a'] 1), .string ⟨['s'], 1⟩,
        .comment (.onLine ['b'] 2)])).map RankedItem.item =
      [.string ⟨['s'], 1⟩, .comment ⟨[['a'], ['b']], 1, 2, true⟩] := by
  decide

end LicenseText
