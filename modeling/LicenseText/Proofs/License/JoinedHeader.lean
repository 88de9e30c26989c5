import LicenseText.Proofs.Extraction
import LicenseText.Proofs.License.Keywords

/-!
# Joining does not hide the license header

Joining puts the lines of neighbouring comments into one comment. So a keyword that occurs
in some comment occurs in a joined one, and no joined comment is poorer in keywords than
its parts. The joined comments keep the order of the document, so the first of them with
the SPDX tag is the one that took up the first comment with the tag.
-/

namespace LicenseText

/-! ## The first comment with a property -/

section Joining

variable {p : Comment → Bool} (hjoin : ∀ c next, p (c.join next) = (p c || p next))
include hjoin

theorem find?_joinOnto_of_pos {head : RankedComment}
    (h : (p ∘ RankedComment.comment) head = true) (groups : List RankedComment) :
    ∃ group, (joinOnto head groups).find? (p ∘ RankedComment.comment) = some group ∧
      head.comment.body <:+: group.comment.body := by
  cases groups with
  | nil => exact ⟨head, List.find?_cons_of_pos h, List.infix_refl _⟩
  | cons group groups =>
      rw [joinOnto]
      split
      · refine ⟨_, List.find?_cons_of_pos ?_, List.infix_append_left⟩
        calc p (head.comment.join group.comment)
            = (p head.comment || p group.comment) := hjoin _ _
          _ = true := Bool.or_eq_true_iff.mpr (.inl h)
      · exact ⟨head, List.find?_cons_of_pos h, List.infix_refl _⟩

theorem find?_joinOnto_of_neg {head : RankedComment}
    (h : ¬(p ∘ RankedComment.comment) head = true) {groups : List RankedComment}
    {first : RankedComment}
    (hfirst : groups.find? (p ∘ RankedComment.comment) = some first) :
    ∃ group, (joinOnto head groups).find? (p ∘ RankedComment.comment) = some group ∧
      first.comment.body <:+: group.comment.body := by
  cases groups with
  | nil => contradiction
  | cons group groups =>
      rw [joinOnto]
      split
      · have hhead : p head.comment = false := Bool.eq_false_iff.mpr h
        have hjoined : (p ∘ RankedComment.comment)
            ⟨group.rank, head.comment.join group.comment⟩ =
              (p ∘ RankedComment.comment) group := by
          calc p (head.comment.join group.comment)
              = (p head.comment || p group.comment) := hjoin _ _
            _ = p group.comment := by rw [hhead, Bool.false_or]
        by_cases hgroup : (p ∘ RankedComment.comment) group = true
        · rw [List.find?_cons_of_pos hgroup] at hfirst
          obtain rfl := Option.some.inj hfirst
          exact ⟨_, List.find?_cons_of_pos (hjoined.trans hgroup), List.infix_append_right⟩
        · rw [List.find?_cons_of_neg hgroup] at hfirst
          refine ⟨first, ?_, List.infix_refl _⟩
          rwa [List.find?_cons_of_neg (by rwa [hjoined])]
      · refine ⟨first, ?_, List.infix_refl _⟩
        rwa [List.find?_cons_of_neg h]

/-- Where joining keeps a property and brings none about, the first joined comment that has
it took up the first comment that has it. -/
theorem find?_joinRanked {comments : List RankedComment} {first : RankedComment}
    (h : comments.find? (p ∘ RankedComment.comment) = some first) :
    ∃ group, (joinRanked comments).find? (p ∘ RankedComment.comment) = some group ∧
      first.comment.body <:+: group.comment.body := by
  induction comments with
  | nil => contradiction
  | cons head comments ih =>
      rw [joinRanked_cons]
      by_cases hhead : (p ∘ RankedComment.comment) head = true
      · rw [List.find?_cons_of_pos hhead] at h
        obtain rfl := Option.some.inj h
        exact find?_joinOnto_of_pos hjoin hhead (joinRanked comments)
      · rw [List.find?_cons_of_neg hhead] at h
        obtain ⟨group, hgroup, hbody⟩ := ih h
        obtain ⟨joined, hjoined, hinfix⟩ := find?_joinOnto_of_neg hjoin hhead hgroup
        exact ⟨joined, hjoined, hbody.trans hinfix⟩

/-- The same of the items of a document whose comments are in order. -/
theorem find?_arrange {found : List Item} {start last : Nat} {first : Comment}
    (horder : Comment.InOrder start last (commentsOf found))
    (h : (commentsOf found).find? p = some first) :
    ∃ whole, (commentsOf (arrange found)).find? p = some whole ∧
      first.body <:+: whole.body := by
  rw [← map_comment_rankedComments, List.find?_map] at h
  obtain ⟨ranked, hranked, rfl⟩ := Option.map_eq_some_iff.mp h
  obtain ⟨group, hgroup, hbody⟩ := find?_joinRanked hjoin hranked
  refine ⟨group.comment, ?_, hbody⟩
  rw [commentsOf_arrange horder, List.find?_map]
  exact congrArg (Option.map RankedComment.comment) hgroup

end Joining

theorem hasSpdxTag_join (c next : Comment) :
    hasSpdxTag (c.join next).text = (hasSpdxTag c.text || hasSpdxTag next.text) := by
  rw [Bool.eq_iff_iff, Bool.or_eq_true]
  simp only [Comment.text, Comment.join, hasSpdxTag_joinLines, List.mem_append, or_and_right,
    exists_or]

/-! ## Keywords in joined comments -/

theorem forall_keywordCount_eq_zero_iff (items : List Item) :
    (∀ c ∈ commentsOf items, keywordCount c.text = 0) ↔
      ∀ line ∈ bodiesOf (commentsOf items), keywordCount line = 0 := by
  simp only [Comment.text, keywordCount_joinLines_eq_zero_iff, bodiesOf, List.mem_flatMap]
  constructor
  · rintro h line ⟨c, hc, hline⟩
    exact h c hc line hline
  · intro h c hc line hline
    exact h line ⟨c, hc, hline⟩

theorem exists_hasSpdxTag_iff (items : List Item) :
    (∃ c ∈ commentsOf items, hasSpdxTag c.text = true) ↔
      ∃ line ∈ bodiesOf (commentsOf items), hasSpdxTag line = true := by
  simp only [Comment.text, hasSpdxTag_joinLines, bodiesOf, List.mem_flatMap]
  constructor
  · rintro ⟨c, hc, line, hline, htag⟩
    exact ⟨line, ⟨c, hc, hline⟩, htag⟩
  · rintro ⟨line, ⟨c, hc, hline⟩, htag⟩
    exact ⟨c, hc, line, hline, htag⟩

variable (found : List Item)

theorem header?_arrange_eq_none_iff : header? (arrange found) = none ↔ header? found = none := by
  rw [header?_eq_none_iff, header?_eq_none_iff, forall_keywordCount_eq_zero_iff,
    forall_keywordCount_eq_zero_iff]
  simp only [mem_bodiesOf_arrange]

theorem exists_hasSpdxTag_arrange_iff :
    (∃ c ∈ commentsOf (arrange found), hasSpdxTag c.text = true) ↔
      ∃ c ∈ commentsOf found, hasSpdxTag c.text = true := by
  rw [exists_hasSpdxTag_iff, exists_hasSpdxTag_iff]
  simp only [mem_bodiesOf_arrange]

theorem largestKeywordCount_le_arrange :
    largestKeywordCount found ≤ largestKeywordCount (arrange found) := by
  rw [largestKeywordCount_le_iff]
  intro c hc
  obtain ⟨whole, hwhole, hbody⟩ := exists_infix_arrange hc
  calc keywordCount c.text
      ≤ keywordCount whole.text := keywordCount_joinLines_mono hbody.subset
    _ ≤ largestKeywordCount (arrange found) :=
        largestKeywordCount_le_iff.mp (Nat.le_refl _) whole hwhole

variable {found}

/-- A header with the tag stands, line for line, in the header of the arranged items. -/
theorem exists_run_header?_arrange {start last : Nat}
    (horder : Comment.InOrder start last (commentsOf found))
    (h : ∃ c ∈ commentsOf found, hasSpdxTag c.text = true) :
    ∃ part whole, header? found = some part ∧ header? (arrange found) = some whole ∧
      part.IsRunOfLines whole := by
  obtain ⟨first, hfirst⟩ :
      ∃ first, (commentsOf found).find? (fun c => hasSpdxTag c.text) = some first :=
    Option.isSome_iff_exists.mp (List.find?_isSome.mpr h)
  obtain ⟨whole, hwhole, hbody⟩ := find?_arrange hasSpdxTag_join horder hfirst
  refine ⟨first.text, whole.text, header?_of_find? hfirst, header?_of_find? hwhole, ?_⟩
  refine Text.isRunOfLines_joinLines ?_ hbody
  intro hnil
  have htag := List.find?_some hfirst
  rw [Comment.text, hasSpdxTag_joinLines, hnil] at htag
  simp at htag

/-- Whether comments are joined does not decide whether a document can be read, and why
not; and if it can, there is a header among the joined comments exactly when there is one
without joining, joining does not lower the largest number of keywords in a comment, and
where a comment has the SPDX tag, the header without joining stands, line for line, in the
header of the joined comments. -/
theorem header?_joinComments (content : Text) (type : FileType) (options : ExtractOptions) :
    (∃ e, items content type { options with joinComments := false } = .error e ∧
        items content type { options with joinComments := true } = .error e) ∨
      ∃ off on, items content type { options with joinComments := false } = .ok off ∧
        items content type { options with joinComments := true } = .ok on ∧
        (header? on = none ↔ header? off = none) ∧
        largestKeywordCount off ≤ largestKeywordCount on ∧
        ((∃ c ∈ commentsOf off ++ commentsOf on, hasSpdxTag c.text) →
          ∃ part whole, header? off = some part ∧ header? on = some whole ∧
            part.IsRunOfLines whole) := by
  have hoff : foundItems content type { options with joinComments := false } =
      foundItems content type options := rfl
  have hon : foundItems content type { options with joinComments := true } =
      foundItems content type options := rfl
  rw [items, items, hoff, hon]
  cases hfound : foundItems content type options with
  | error e => exact .inl ⟨e, rfl, rfl⟩
  | ok found =>
      obtain ⟨last, horder⟩ := inOrder_foundItems hfound
      refine .inr ⟨found, arrange found, rfl, rfl, header?_arrange_eq_none_iff found,
        largestKeywordCount_le_arrange found, ?_⟩
      rintro ⟨c, hc, htag⟩
      refine exists_run_header?_arrange horder ?_
      rcases List.mem_append.mp hc with hc | hc
      · exact ⟨c, hc, htag⟩
      · exact (exists_hasSpdxTag_arrange_iff found).mp ⟨c, hc, htag⟩

end LicenseText
