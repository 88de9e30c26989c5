import LicenseText.Proofs.Item.Arrangement

/-!
# When string literals keep their order

Ordering the items of a document by their last lines leaves the string literals as they
were found exactly when their lines do not decrease. `StringLiteral.InOrder` says so of a
list of literals and the lines between which it lies.
-/

namespace LicenseText

namespace StringLiteral

/-- A string literal, seen as a comment on its line. -/
def asComment (s : StringLiteral) : Comment := .onLine s.text s.line

/-- Between the lines `first` and `last` the string literals stand in the order of their
lines. -/
def InOrder (first last : Nat) (literals : List StringLiteral) : Prop :=
  Comment.InOrder first last (literals.map asComment)

namespace InOrder

variable {first mid last : Nat} {xs ys : List StringLiteral}

theorem append (hxs : InOrder first mid xs) (hys : InOrder mid last ys) :
    InOrder first last (xs ++ ys) := by
  rw [InOrder, List.map_append]
  exact Comment.InOrder.append hxs hys

theorem weaken_last (h : InOrder first mid xs) (hlast : mid ≤ last) : InOrder first last xs :=
  Comment.InOrder.weaken_last h hlast

/-- At most one literal between two lines. -/
theorem toList {literal? : Option StringLiteral} (hle : first ≤ last)
    (h : ∀ s ∈ literal?, first ≤ s.line ∧ s.line ≤ last) :
    InOrder first last literal?.toList := by
  cases literal? with
  | none => exact hle
  | some s =>
      obtain ⟨hfirst, hlast⟩ := h s rfl
      exact .single hfirst (Nat.le_refl _) hlast

theorem pairwise_line (h : InOrder first last xs) :
    xs.Pairwise fun s later => s.line ≤ later.line := by
  have hcomments := Comment.InOrder.pairwise h
  rwa [List.pairwise_map] at hcomments

end InOrder

end StringLiteral

/-! ## Ordering -/

variable {found : List Item}

/-- The ranks of the items count them. -/
theorem map_rank_rankItems (found : List Item) :
    (rankItems found).map RankedItem.rank = List.range' 0 found.length := by
  rw [rankItems, List.map_map]
  exact List.zipIdx_map_snd 0 found

theorem pairwise_rank_rankItems (found : List Item) :
    (rankItems found).Pairwise fun a b => a.rank ≤ b.rank := by
  have hsorted : ((rankItems found).map RankedItem.rank).Pairwise (· ≤ ·) := by
    rw [map_rank_rankItems]
    exact List.pairwise_le_range' 1
  exact List.pairwise_map.mp hsorted

theorem map_lastLine_filter_isString (ranked : List RankedItem) :
    (ranked.filter RankedItem.isString).map (fun r => r.item.lastLine) =
      (stringsOf (ranked.map RankedItem.item)).map StringLiteral.line := by
  induction ranked with
  | nil => rfl
  | cons r ranked ih =>
      obtain ⟨rank, item⟩ := r
      cases item with
      | comment c => exact ih
      | string s => exact congrArg (s.line :: ·) ih

theorem pairwise_line_of_pairwise_lastLine
    (h : found.Pairwise fun a b => a.lastLine ≤ b.lastLine) :
    (stringsOf found).Pairwise fun s later => s.line ≤ later.line := by
  rw [stringsOf, List.pairwise_filterMap]
  refine h.imp ?_
  intro a b hlines s hs later hlater
  cases a with
  | comment c => contradiction
  | string s' =>
      cases b with
      | comment c => contradiction
      | string later' =>
          obtain rfl := Option.some.inj hs
          obtain rfl := Option.some.inj hlater
          exact hlines

/-- Strings whose lines do not decrease stand in the order in which they are delivered. -/
theorem pairwise_precedes_rankedStrings
    (h : (stringsOf found).Pairwise fun s later => s.line ≤ later.line) :
    (rankedStrings found).Pairwise fun a b => a.precedes b = true := by
  have hranks := (pairwise_rank_rankItems found).filter RankedItem.isString
  have hlines : (rankedStrings found).Pairwise fun a b =>
      a.item.lastLine ≤ b.item.lastLine := by
    have hsorted := List.pairwise_map.mpr h
    rw [← map_item_rankItems found, ← map_lastLine_filter_isString] at hsorted
    exact List.pairwise_map.mp hsorted
  refine (hranks.and hlines).imp ?_
  rintro a b ⟨hrank, hline⟩
  simp only [RankedItem.precedes, Bool.or_eq_true, Bool.and_eq_true, decide_eq_true_eq,
    beq_iff_eq]
  omega

/-- Ordering the items leaves the string literals as they were found exactly when their
lines do not decrease. -/
theorem stringsOf_arrange_eq_iff :
    stringsOf (arrange found) = stringsOf found ↔
      (stringsOf found).Pairwise fun s later => s.line ≤ later.line := by
  constructor
  · intro h
    rw [← h]
    exact pairwise_line_of_pairwise_lastLine (pairwise_lastLine_arrange found)
  · intro h
    have hsorted : (rankedStrings found).Sublist (orderedItems found) :=
      List.sublist_mergeSort RankedItem.precedes_trans RankedItem.precedes_total
        (pairwise_precedes_rankedStrings h) (List.sublist_append_right _ _)
    have hsublist : (stringsOf ((rankedStrings found).map RankedItem.item)).Sublist
        (stringsOf (arrange found)) := (hsorted.map RankedItem.item).filterMap _
    rw [rankedStrings, stringsOf_filter_isString, map_item_rankItems] at hsublist
    exact (hsublist.eq_of_length (stringsOf_arrange found).length_eq.symm).symm

end LicenseText
