import LicenseText.License.Header
import LicenseText.Proofs.Item.Spans
import LicenseText.Proofs.Text.Lines

/-!
# Keywords line by line

No keyword holds a line feed, and neither does the SPDX tag, so what counts in a comment of
several lines is found in one of its lines. The tag contains a keyword; so there is no
license header exactly when no keyword occurs in any comment, and a comment with the tag
is the header unless one stands before it.
-/

namespace LicenseText

/-! ## Lines in lower case -/

theorem Text.lower_joinLines (lines : List Text) :
    (Text.joinLines lines).lower = Text.joinLines (lines.map Text.lower) := by
  induction lines with
  | nil => rfl
  | cons line rest ih =>
      cases rest with
      | nil => simp [Text.joinLines]
      | cons next rest =>
          have hbreak : lowerCase '\n' = ['\n'] := by decide
          rw [Text.joinLines_cons_cons, Text.lower, List.flatMap_append, List.flatMap_cons,
            hbreak, ← Text.lower, ← Text.lower, ih]
          exact (Text.joinLines_cons_cons _ _ _).symm

theorem contains_lower_joinLines {word : Text} (hne : word ≠ []) (hword : '\n' ∉ word)
    (lines : List Text) :
    Text.contains word (Text.joinLines lines).lower = true ↔
      ∃ line ∈ lines, Text.contains word line.lower = true := by
  simp only [Text.contains_iff_isInfix]
  rw [Text.lower_joinLines, Text.infix_joinLines_iff hne hword]
  simp

theorem keyword_isOneLine {word : Text} (h : word ∈ keywords) : word ≠ [] ∧ '\n' ∉ word := by
  revert word
  decide +kernel

/-- A keyword is in a text of several lines exactly when it is in one of them. -/
theorem contains_keyword_joinLines {word : Text} (h : word ∈ keywords) (lines : List Text) :
    Text.contains word (Text.joinLines lines).lower = true ↔
      ∃ line ∈ lines, Text.contains word line.lower = true := by
  obtain ⟨hne, hbreak⟩ := keyword_isOneLine h
  exact contains_lower_joinLines hne hbreak lines

/-- The tag is in a text of several lines exactly when it is in one of them. -/
theorem hasSpdxTag_joinLines (lines : List Text) :
    hasSpdxTag (Text.joinLines lines) = true ↔ ∃ line ∈ lines, hasSpdxTag line = true :=
  contains_lower_joinLines (by decide) (by decide) lines

/-- More lines have no fewer keywords. -/
theorem keywordCount_joinLines_mono {part whole : List Text} (h : part ⊆ whole) :
    keywordCount (Text.joinLines part) ≤ keywordCount (Text.joinLines whole) := by
  refine List.countP_mono_left fun word hword hpart => ?_
  have hlines := contains_keyword_joinLines hword
  obtain ⟨line, hline, hoccurs⟩ := (hlines part).mp hpart
  exact (hlines whole).mpr ⟨line, h hline, hoccurs⟩

theorem keywordCount_joinLines_eq_zero_iff (lines : List Text) :
    keywordCount (Text.joinLines lines) = 0 ↔ ∀ line ∈ lines, keywordCount line = 0 := by
  simp only [keywordCount, List.countP_eq_zero]
  constructor
  · intro h line hline word hword hoccurs
    exact h word hword ((contains_keyword_joinLines hword lines).mpr ⟨line, hline, hoccurs⟩)
  · intro h word hword hoccurs
    obtain ⟨line, hline, hoccurs⟩ := (contains_keyword_joinLines hword lines).mp hoccurs
    exact h line hline word hword hoccurs

theorem keywordCount_pos_of_hasSpdxTag {text : Text} (h : hasSpdxTag text = true) :
    0 < keywordCount text := by
  rw [keywordCount, List.countP_pos_iff]
  refine ⟨"spdx".toList, by decide +kernel, ?_⟩
  rw [Text.contains_iff_isInfix]
  have htag : "spdx".toList <:+: spdxTag := by decide
  exact htag.trans ((Text.contains_iff_isInfix _ _).mp h)

/-! ## The header -/

/-- The header depends on the comments alone. -/
theorem header?_congr {items items' : List Item}
    (h : commentsOf items = commentsOf items') : header? items = header? items' := by
  rw [commentsOf, commentsOf] at h
  rw [header?, header?, h]

theorem Candidate.better_eq_none_iff {best : Option Candidate} {text : Text} :
    Candidate.better best text = none ↔ best = none ∧ keywordCount text = 0 := by
  cases best with
  | none =>
      rw [Candidate.better]
      by_cases hcount : 0 < keywordCount text
      · simp [hcount, Nat.ne_of_gt hcount]
      · simp [Nat.eq_zero_of_not_pos hcount]
  | some best =>
      rw [Candidate.better]
      by_cases hcount : best.count < keywordCount text
      · simp [hcount]
      · simp [hcount]

theorem headerFrom?_eq_none_iff {best : Option Candidate} {texts : List Text} :
    headerFrom? best texts = none ↔ best = none ∧ ∀ text ∈ texts, keywordCount text = 0 := by
  induction texts generalizing best with
  | nil => simp [headerFrom?]
  | cons text rest ih =>
      rw [headerFrom?]
      by_cases htag : hasSpdxTag text = true
      · have hcount := Nat.ne_of_gt (keywordCount_pos_of_hasSpdxTag htag)
        simp [htag, hcount]
      · rw [if_neg htag, ih, Candidate.better_eq_none_iff, List.forall_mem_cons, and_assoc]

/-- The first text with the tag is the header, whatever came before. -/
theorem headerFrom?_of_find? {best : Option Candidate} {texts : List Text} {text : Text}
    (h : texts.find? hasSpdxTag = some text) : headerFrom? best texts = some text := by
  induction texts generalizing best with
  | nil => contradiction
  | cons first rest ih =>
      rw [headerFrom?]
      by_cases htag : hasSpdxTag first = true
      · rw [List.find?_cons_of_pos htag] at h
        rw [if_pos htag, h]
      · rw [List.find?_cons_of_neg htag] at h
        rw [if_neg htag]
        exact ih h

/-- There is no header exactly when no keyword occurs in any comment. -/
theorem header?_eq_none_iff {items : List Item} :
    header? items = none ↔ ∀ c ∈ commentsOf items, keywordCount c.text = 0 := by
  rw [header?, headerFrom?_eq_none_iff, List.forall_mem_map]
  exact and_iff_right rfl

/-- The first comment with the tag is the header. -/
theorem header?_of_find? {items : List Item} {c : Comment}
    (h : (commentsOf items).find? (fun c => hasSpdxTag c.text) = some c) :
    header? items = some c.text := by
  refine headerFrom?_of_find? ?_
  rw [List.find?_map]
  exact congrArg (Option.map Comment.text) h

/-- The largest number of keywords in a comment, or zero where there are no comments. -/
def largestKeywordCount (items : List Item) : Nat :=
  ((commentsOf items).map fun c => keywordCount c.text).foldr max 0

theorem largestKeywordCount_le_iff {items : List Item} {n : Nat} :
    largestKeywordCount items ≤ n ↔ ∀ c ∈ commentsOf items, keywordCount c.text ≤ n := by
  rw [largestKeywordCount]
  induction commentsOf items with
  | nil => simp
  | cons c rest ih =>
      rw [List.map_cons, List.foldr_cons, Nat.max_le, ih, List.forall_mem_cons]

end LicenseText
