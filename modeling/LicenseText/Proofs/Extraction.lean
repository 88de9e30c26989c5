import LicenseText.Extraction
import LicenseText.Proofs.Delimited.Spans
import LicenseText.Proofs.Html.Spans
import LicenseText.Proofs.Item.Arrangement
import LicenseText.Proofs.Xml.Spans

/-!
# Extraction with and without joining

All readers deliver the comments of a document in order, so joining neighbouring
comments rearranges the items of a document and does nothing else to them.
-/

namespace LicenseText

section Found

variable {content : Text} {type : FileType} {options : ExtractOptions} {found : List Item}

/-- A document that can be read is one of a delimited language, of HTML or of XML. -/
theorem foundItems_cases (h : foundItems content type options = .ok found) :
    (∃ delimiters, type.syntax? = some (.delimited delimiters) ∧
        found = Delimited.read delimiters options.includeStrings options.openBlock content) ∨
      (type.syntax? = some (.markup .html) ∧
        found = Html.read content options.includeStrings) ∨
      (type.syntax? = some (.markup .xml) ∧
        Xml.read content options.includeStrings = .ok found) := by
  rw [foundItems] at h
  split at h
  case h_1 => contradiction
  case h_2 delimiters htype => exact .inl ⟨delimiters, htype, (Except.ok.inj h).symm⟩
  case h_3 htype => exact .inr (.inl ⟨htype, (Except.ok.inj h).symm⟩)
  case h_4 htype =>
    refine .inr (.inr ⟨htype, ?_⟩)
    cases hread : Xml.read content options.includeStrings with
    | error failure =>
        rw [hread] at h
        contradiction
    | ok items =>
        rw [hread] at h
        exact congrArg Except.ok (Except.ok.inj h)

theorem items_eq_ok {result : List Item} (h : items content type options = .ok result) :
    ∃ found, foundItems content type options = .ok found ∧
      result = if options.joinComments then arrange found else found := by
  rw [items] at h
  cases hfound : foundItems content type options with
  | error e =>
      rw [hfound] at h
      contradiction
  | ok found =>
      rw [hfound] at h
      exact ⟨found, rfl, (Except.ok.inj h).symm⟩

/-- The number of lines of a document. In HTML also a carriage return breaks a line if no
line feed follows it. -/
def FileType.lineCount (type : FileType) (content : Text) : Nat :=
  match type.syntax? with
  | some (.markup .html) => 1 + Html.lineBreaks content
  | _ => 1 + Text.breaks content

/-- The comments of a document are in order, on the lines of the document. -/
theorem inOrder_lineCount_foundItems (h : foundItems content type options = .ok found) :
    Comment.InOrder 1 (type.lineCount content) (commentsOf found) := by
  rw [FileType.lineCount]
  rcases foundItems_cases h with ⟨delimiters, htype, rfl⟩ | ⟨htype, rfl⟩ | ⟨htype, hread⟩
  · rw [htype]
    exact Delimited.inOrder_read delimiters options.includeStrings options.openBlock content
  · rw [htype]
    exact Html.inOrder_read content options.includeStrings
  · rw [htype]
    exact Xml.inOrder_read hread

theorem inOrder_foundItems (h : foundItems content type options = .ok found) :
    ∃ last, Comment.InOrder 1 last (commentsOf found) :=
  ⟨_, inOrder_lineCount_foundItems h⟩

end Found

/-- Whether comments are joined does not decide whether a document can be read, and why
not; and if it can, joining keeps every string literal and every line of a comment, puts
the items in the order of their last lines, and leaves gaps between the comments. -/
theorem items_joinComments (content : Text) (type : FileType) (options : ExtractOptions) :
    (∃ e, items content type { options with joinComments := false } = .error e ∧
        items content type { options with joinComments := true } = .error e) ∨
      ∃ off on, items content type { options with joinComments := false } = .ok off ∧
        items content type { options with joinComments := true } = .ok on ∧
        Arranges on off := by
  have hoff : foundItems content type { options with joinComments := false } =
      foundItems content type options := rfl
  have hon : foundItems content type { options with joinComments := true } =
      foundItems content type options := rfl
  rw [items, items, hoff, hon]
  cases hfound : foundItems content type options with
  | error e => exact .inl ⟨e, rfl, rfl⟩
  | ok found =>
      obtain ⟨last, horder⟩ := inOrder_foundItems hfound
      exact .inr ⟨found, arrange found, rfl, rfl, arranges_arrange horder⟩

end LicenseText
