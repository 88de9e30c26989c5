import LicenseText.Proofs.Item.Arrangement
import LicenseText.Proofs.License.Relevance
import LicenseText.Survey

/-!
# The verdict does not depend on joining

A relevant line makes every literal relevant in which it stands, and joining only puts
lines of comments together. So there is a relevant literal among the joined items exactly
when there is one among the items as they were found, and what was relevant by itself is
found again, line for line, in a relevant literal.
-/

namespace LicenseText

/-! ## Items -/

/-- What makes one of the items relevant is a line of a comment or a string literal. -/
theorem exists_relevant_iff (found : List Item) :
    (∃ literal ∈ found.map Item.text, isRelevant literal = true) ↔
      (∃ line ∈ bodiesOf (commentsOf found), isRelevant line = true) ∨
        ∃ s ∈ stringsOf found, isRelevant s.text = true := by
  induction found with
  | nil => simp [bodiesOf, commentsOf, stringsOf]
  | cons item found ih =>
      cases item with
      | comment c =>
          rw [List.map_cons, List.exists_mem_cons_iff, ih, commentsOf_cons_comment,
            stringsOf_cons_comment, bodiesOf_cons, Item.text, Comment.text,
            isRelevant_joinLines]
          simp only [List.mem_append, or_and_right, exists_or, or_assoc]
      | string s =>
          rw [List.map_cons, List.exists_mem_cons_iff, ih, commentsOf_cons_string,
            stringsOf_cons_string, List.exists_mem_cons_iff, Item.text]
          exact or_left_comm

theorem exists_relevant_arrange (found : List Item) :
    (∃ literal ∈ (arrange found).map Item.text, isRelevant literal = true) ↔
      ∃ literal ∈ found.map Item.text, isRelevant literal = true := by
  rw [exists_relevant_iff, exists_relevant_iff]
  simp only [mem_bodiesOf_arrange, (stringsOf_arrange found).mem_iff]

theorem isRelevant_of_infix_body {part whole : List Text} (h : part <:+: whole)
    (hpart : isRelevant (Text.joinLines part) = true) :
    isRelevant (Text.joinLines whole) = true := by
  rw [isRelevant_joinLines] at hpart ⊢
  obtain ⟨line, hline, hrelevant⟩ := hpart
  exact ⟨line, h.subset hline, hrelevant⟩

/-- A relevant literal is found in a relevant literal of the arranged items, where its
lines stand one behind the other. -/
theorem exists_run_arrange {found : List Item} {literal : Text}
    (hmem : literal ∈ found.map Item.text) (hrelevant : isRelevant literal = true) :
    ∃ whole ∈ (arrange found).map Item.text,
      isRelevant whole = true ∧ literal.IsRunOfLines whole := by
  obtain ⟨item, hitem, rfl⟩ := List.mem_map.mp hmem
  cases item with
  | comment c =>
      obtain ⟨whole, hwhole, hbody⟩ := exists_infix_arrange (mem_commentsOf.mpr hitem)
      have hne : c.body ≠ [] := by
        intro hnil
        rw [Item.text, Comment.text, isRelevant_joinLines, hnil] at hrelevant
        simp at hrelevant
      refine ⟨_, List.mem_map_of_mem (mem_commentsOf.mp hwhole), ?_,
        Text.isRunOfLines_joinLines hne hbody⟩
      exact isRelevant_of_infix_body hbody hrelevant
  | string s =>
      have hs : s ∈ stringsOf (arrange found) :=
        (stringsOf_arrange found).mem_iff.mpr (mem_stringsOf.mpr hitem)
      exact ⟨_, List.mem_map_of_mem (mem_stringsOf.mp hs), hrelevant, .refl _⟩

/-! ## Documents and files -/

theorem itemsOrNone_joined (content : Text) (type : FileType) (options : ExtractOptions) :
    itemsOrNone content type { options with joinComments := true } =
      (itemsOrNone content type { options with joinComments := false }).map arrange := by
  have hfound : foundItems content type { options with joinComments := true } =
      foundItems content type { options with joinComments := false } := rfl
  rw [itemsOrNone, itemsOrNone, items, items, hfound]
  cases foundItems content type { options with joinComments := false } with
  | ok found => rfl
  | error e =>
      cases e with
      | unsupported type => exact congrArg Except.ok arrange_nil.symm
      | markup failure => rfl

/-- A survey that is otherwise the same, and joins comments or not. -/
def Survey.joining (survey : Survey) (joined : Bool) : Survey :=
  { survey with
    config :=
      { survey.config with
        extract := { survey.config.extract with joinComments := joined } } }

theorem hasRelevant_arrange (found : List Item) :
    (divide ((arrange found).map Item.text)).hasRelevant =
      (divide (found.map Item.text)).hasRelevant := by
  rw [Bool.eq_iff_iff, hasRelevant_divide, hasRelevant_divide, exists_relevant_arrange]

theorem status_reportOn_joining (survey : Survey) (path : Bytes) (content : Text) :
    ((survey.joining true).reportOn path content).status =
      ((survey.joining false).reportOn path content).status := by
  have htype : (survey.joining true).typeOf path content =
      (survey.joining false).typeOf path content := rfl
  rw [Survey.reportOn, Survey.reportOn, htype]
  dsimp only [Survey.joining]
  rw [itemsOrNone_joined]
  cases itemsOrNone content _ _ with
  | error e => rfl
  | ok found =>
      simp only [Except.map, Survey.statusOf, hasRelevant_arrange]

theorem status_report_joining (survey : Survey) (tree : FileTree) (path : Bytes) :
    ((survey.joining true).report tree path).status =
      ((survey.joining false).report tree path).status := by
  have hcontent : (survey.joining true).content tree path =
      (survey.joining false).content tree path := rfl
  rw [Survey.report, Survey.report, hcontent]
  cases (survey.joining false).content tree path with
  | error obstacle => rfl
  | ok content => exact status_reportOn_joining survey path content

/-- Whether comments are joined decides neither whether a document can be read nor whether
it has a relevant literal, so a file gets the same status either way. Each relevant literal
stands, line for line, in a relevant literal of the joined items. -/
theorem relevance_joinComments (content : Text) (type : FileType)
    (options : ExtractOptions) (survey : Survey) (tree : FileTree) (path : Bytes) :
    ((∃ e, literalsOrNone content type { options with joinComments := false } = .error e ∧
        literalsOrNone content type { options with joinComments := true } = .error e) ∨
      ∃ off on,
        literalsOrNone content type { options with joinComments := false } = .ok off ∧
        literalsOrNone content type { options with joinComments := true } = .ok on ∧
        ((∃ literal ∈ on, isRelevant literal) ↔ ∃ literal ∈ off, isRelevant literal) ∧
        ∀ literal ∈ off, isRelevant literal →
          ∃ whole ∈ on, isRelevant whole ∧ literal.IsRunOfLines whole) ∧
    ((survey.joining true).report tree path).status =
      ((survey.joining false).report tree path).status := by
  refine ⟨?_, status_report_joining survey tree path⟩
  rw [literalsOrNone, literalsOrNone, itemsOrNone_joined]
  cases itemsOrNone content type { options with joinComments := false } with
  | error e => exact .inl ⟨e, rfl, rfl⟩
  | ok found =>
      refine .inr ⟨found.map Item.text, (arrange found).map Item.text, rfl, rfl, ?_, ?_⟩
      · exact exists_relevant_arrange found
      · intro literal hmem hrelevant
        exact exists_run_arrange hmem hrelevant

end LicenseText
