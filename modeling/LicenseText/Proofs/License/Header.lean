import LicenseText.License.Header

/-!
# The license header is a comment

Whatever the header is chosen by, it is the text of one of the comments.
-/

namespace LicenseText

theorem text_mem_of_better {best : Option Candidate} {text : Text} {candidate : Candidate}
    (h : Candidate.better best text = some candidate) :
    best = some candidate ∨ candidate.text = text := by
  rw [Candidate.better] at h
  split at h
  · right
    rw [← Option.some.inj h]
  · exact .inl h

/-- The header is the best text so far or one of those that follow. -/
theorem mem_of_headerFrom? {best : Option Candidate} {texts : List Text} {text : Text}
    (h : headerFrom? best texts = some text) :
    best.map Candidate.text = some text ∨ text ∈ texts := by
  induction texts generalizing best with
  | nil => exact .inl h
  | cons first rest ih =>
      rw [headerFrom?] at h
      split at h
      · obtain rfl := Option.some.inj h
        exact .inr List.mem_cons_self
      · rcases ih h with hbest | hrest
        · obtain ⟨candidate, hcandidate, rfl⟩ := Option.map_eq_some_iff.mp hbest
          rcases text_mem_of_better hcandidate with hold | hfirst
          · exact .inl (congrArg _ hold)
          · exact .inr (hfirst ▸ List.mem_cons_self)
        · exact .inr (List.mem_cons_of_mem _ hrest)

/-- The header is the text of an item. -/
theorem mem_of_header? {items : List Item} {text : Text} (h : header? items = some text) :
    text ∈ items.map Item.text := by
  rcases mem_of_headerFrom? h with hnone | hmem
  · contradiction
  · obtain ⟨c, hc, rfl⟩ := List.mem_map.mp hmem
    obtain ⟨item, hitem, hcomment⟩ := List.mem_filterMap.mp hc
    cases item with
    | comment c' =>
        obtain rfl := Option.some.inj hcomment
        exact List.mem_map_of_mem hitem
    | string s => contradiction

end LicenseText
