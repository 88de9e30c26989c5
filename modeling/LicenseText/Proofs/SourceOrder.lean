import LicenseText.Proofs.Html.TextOrder
import LicenseText.Proofs.Xml.TextOrder

/-!
# Strings in the order of the document

When comments are joined, the items of a document are ordered by their lines, and strings
that were found on decreasing lines change places. In markup that happens only where the
line of a text is not the one on which it stands: behind a reference to a line feed, which
counts as a line though it is written on one, and in an XML document with a byte order
mark, whose positions do not count that mark.
-/

namespace LicenseText

/-- The lines of the texts of a document are those on which they stand: no reference stands
for a line feed, and positions count everything in front of them. -/
def MarkupKind.KeepsLines : MarkupKind → Text → Prop
  | .html, content => Html.NoBreakReference content
  | .xml, content =>
    Xml.dropMark content = content ∧ Markup.NoBreakReference Xml.referenceValue content

instance : (kind : MarkupKind) → (content : Text) → Decidable (kind.KeepsLines content)
  | .html, content => Markup.decidableNoBreakReference _ content
  | .xml, content =>
    inferInstanceAs (Decidable (Xml.dropMark content = content ∧
      Markup.NoBreakReference Xml.referenceValue content))

theorem pairwise_line_foundItems {content : Text} {type : FileType} {kind : MarkupKind}
    {options : ExtractOptions} {found : List Item}
    (hkind : type.syntax? = some (.markup kind)) (hlines : kind.KeepsLines content)
    (hfound : foundItems content type options = .ok found) :
    (stringsOf found).Pairwise fun s later => s.line ≤ later.line := by
  rcases foundItems_cases hfound with ⟨delimiters, htype, -⟩ | ⟨htype, rfl⟩ | ⟨htype, hread⟩
  · have hsyntax := Option.some.inj (htype.symm.trans hkind)
    contradiction
  · obtain rfl := Syntax.markup.inj (Option.some.inj (htype.symm.trans hkind))
    exact Html.pairwise_line_read hlines options.includeStrings
  · obtain rfl := Syntax.markup.inj (Option.some.inj (htype.symm.trans hkind))
    obtain ⟨hmark, hplain⟩ := hlines
    exact Xml.pairwise_line_read hmark hplain hread

/-- Joining comments leaves the strings of a markup document as they were found exactly when
they were found on lines that do not decrease, and so it does in every document that keeps
its lines. -/
theorem stringsOf_joinComments {type : FileType} {kind : MarkupKind}
    (hkind : type.syntax? = some (.markup kind)) (content : Text) (options : ExtractOptions) :
    (∃ e, items content type { options with joinComments := false } = .error e ∧
        items content type { options with joinComments := true } = .error e) ∨
      ∃ off on, items content type { options with joinComments := false } = .ok off ∧
        items content type { options with joinComments := true } = .ok on ∧
        (stringsOf on = stringsOf off ↔
          (stringsOf off).Pairwise fun s later => s.line ≤ later.line) ∧
        (kind.KeepsLines content → stringsOf on = stringsOf off) := by
  have hoff : foundItems content type { options with joinComments := false } =
      foundItems content type options := by rw [foundItems, foundItems]
  have hon : foundItems content type { options with joinComments := true } =
      foundItems content type options := by rw [foundItems, foundItems]
  rw [items, items, hoff, hon]
  cases hfound : foundItems content type options with
  | error e => exact .inl ⟨e, rfl, rfl⟩
  | ok found =>
      refine .inr ⟨found, arrange found, rfl, rfl, stringsOf_arrange_eq_iff, ?_⟩
      intro hlines
      exact stringsOf_arrange_eq_iff.mpr (pairwise_line_foundItems hkind hlines hfound)

theorem stringsOf_joinComments_of_list :
    (FileType.sgml.syntax? = some (.markup .html) ∧
      MarkupKind.html.KeepsLines "<ul>\n<li>&#65;\n<li>b &#x3e;\n &#99;</ul>".toList) ∧
    ∃ off on,
      items "<ul>\n<li>&#65;\n<li>b &#x3e;\n &#99;</ul>".toList .sgml
          { joinComments := false } = .ok off ∧
      items "<ul>\n<li>&#65;\n<li>b &#x3e;\n &#99;</ul>".toList .sgml {} = .ok on ∧
      stringsOf on = stringsOf off := by
  have hlines : MarkupKind.html.KeepsLines
      "<ul>\n<li>&#65;\n<li>b &#x3e;\n &#99;</ul>".toList := by decide
  refine ⟨⟨rfl, hlines⟩, ?_⟩
  rcases @stringsOf_joinComments .sgml .html rfl
      "<ul>\n<li>&#65;\n<li>b &#x3e;\n &#99;</ul>".toList {} with
    ⟨e, he, -⟩ | ⟨off, on, hoff, hon, -, hkeeps⟩
  · contradiction
  · exact ⟨off, on, hoff, hon, hkeeps hlines⟩

/-- A reference to a line feed in front of a text moves it behind the text that follows. -/
theorem stringsOf_items_of_break :
    ∃ off on,
      items "<r><a>&#10;x</a><b>y</b></r>".toList .xml { joinComments := false } = .ok off ∧
      items "<r><a>&#10;x</a><b>y</b></r>".toList .xml {} = .ok on ∧
      stringsOf off = [⟨"x".toList, 2⟩, ⟨"y".toList, 1⟩] ∧
      stringsOf on = [⟨"y".toList, 1⟩, ⟨"x".toList, 2⟩] := by
  have hfound : foundItems "<r><a>&#10;x</a><b>y</b></r>".toList .xml {} =
      .ok [.string ⟨"x".toList, 2⟩, .string ⟨"y".toList, 1⟩] := by decide +kernel
  refine ⟨_, arrange _, congrArg (Except.map _) hfound, congrArg (Except.map _) hfound, rfl, ?_⟩
  have hsorted := pairwise_line_of_pairwise_lastLine
    (pairwise_lastLine_arrange [.string ⟨"x".toList, 2⟩, .string ⟨"y".toList, 1⟩])
  have hperm := stringsOf_arrange [.string ⟨"x".toList, 2⟩, .string ⟨"y".toList, 1⟩]
  refine List.Perm.eq_of_pairwise ?_ hsorted (by simp) (hperm.trans (.swap _ _ _))
  intro s later hs hlater
  rcases List.mem_pair.mp (hperm.mem_iff.mp hs) with rfl | rfl
  · rcases List.mem_pair.mp hlater with rfl | rfl <;> simp
  · rcases List.mem_pair.mp hlater with rfl | rfl <;> simp

end LicenseText
