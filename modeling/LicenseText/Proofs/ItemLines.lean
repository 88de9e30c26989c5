import LicenseText.Proofs.Extraction

/-!
# Items stand on lines of the document

The readers count lines in different ways, but every comment that one of them finds starts
and ends on lines of the document, and joining comments keeps this. As it is found, a comment
has no more lines than it spans, and in markup as many. In a delimited language the strings
stand on lines of the document as well.
-/

namespace LicenseText

section Found

variable {content : Text} {type : FileType} {options : ExtractOptions} {found : List Item}

/-- A comment of a markup document has as many lines as it spans. -/
theorem fillsSpan_foundItems {kind : MarkupKind} (hkind : type.syntax? = some (.markup kind))
    (h : foundItems content type options = .ok found) :
    ∀ c ∈ commentsOf found, c.FillsSpan := by
  rcases foundItems_cases h with ⟨delimiters, htype, -⟩ | ⟨-, rfl⟩ | ⟨-, hread⟩
  · have hsyntax := Option.some.inj (htype.symm.trans hkind)
    contradiction
  · exact Html.fillsSpan_read content options.includeStrings
  · exact Xml.fillsSpan_read hread

/-- A comment has no more lines than it spans. -/
theorem fitsSpan_foundItems (h : foundItems content type options = .ok found) :
    ∀ c ∈ commentsOf found, c.FitsSpan := by
  intro c hc
  rcases foundItems_cases h with ⟨delimiters, -, rfl⟩ | ⟨htype, -⟩ | ⟨htype, -⟩
  · exact Delimited.fitsSpan_read _ _ _ content c hc
  · exact (fillsSpan_foundItems htype h c hc).fitsSpan
  · exact (fillsSpan_foundItems htype h c hc).fitsSpan

/-- A string of a delimited language stands on a line of the document. -/
theorem line_of_mem_foundItems {delimiters : DelimitedSyntax}
    (hdelimited : type.syntax? = some (.delimited delimiters))
    (h : foundItems content type options = .ok found) :
    ∀ s ∈ stringsOf found, 1 ≤ s.line ∧ s.line ≤ type.lineCount content := by
  rcases foundItems_cases h with ⟨delimiters, htype, rfl⟩ | ⟨htype, -⟩ | ⟨htype, -⟩
  · rw [FileType.lineCount, htype]
    exact Delimited.line_of_mem_read _ _ _ content
  · have hsyntax := Option.some.inj (htype.symm.trans hdelimited)
    contradiction
  · have hsyntax := Option.some.inj (htype.symm.trans hdelimited)
    contradiction

/-! ## Arranged items -/

variable {result : List Item}

/-- Without joining, the items of a document are those that its reader finds. -/
theorem items_eq_foundItems (hapart : options.joinComments = false) :
    items content type options = foundItems content type options := by
  rw [items, hapart]
  cases foundItems content type options with
  | error e => rfl
  | ok found => rfl

/-- The comments of the items are in order, on the lines of the document. -/
theorem inOrder_items (h : items content type options = .ok result) :
    Comment.InOrder 1 (type.lineCount content) (commentsOf result) := by
  obtain ⟨found, hfound, rfl⟩ := items_eq_ok h
  have horder := inOrder_lineCount_foundItems hfound
  split
  · exact inOrder_arrange horder
  · exact horder

/-- The string literals of the items are those that the reader finds. -/
theorem exists_stringsOf_perm (h : items content type options = .ok result) :
    ∃ found, foundItems content type options = .ok found ∧
      (stringsOf result).Perm (stringsOf found) := by
  obtain ⟨found, hfound, rfl⟩ := items_eq_ok h
  refine ⟨found, hfound, ?_⟩
  split
  · exact stringsOf_arrange found
  · exact .refl _

end Found

/-- The items of a document stand on its lines. The comments of which `ordered` speaks are
those that the reader finds, before any of them are joined. -/
structure ItemsOnLines (content : Text) (type : FileType) (options : ExtractOptions)
    (result : List Item) : Prop where
  ordered : ∀ found, foundItems content type options = .ok found →
    ∀ c ∈ commentsOf found, c.startLine ≤ c.endLine
  comments : ∀ c ∈ commentsOf result, c.Within 1 (type.lineCount content)
  bodies : options.joinComments = false → ∀ c ∈ commentsOf result, c.FitsSpan
  markup : options.joinComments = false → ∀ kind, type.syntax? = some (.markup kind) →
    ∀ c ∈ commentsOf result, c.FillsSpan
  strings : ∀ delimiters, type.syntax? = some (.delimited delimiters) →
    ∀ s ∈ stringsOf result, 1 ≤ s.line ∧ s.line ≤ type.lineCount content

/-- Whenever a document can be read, its items stand on its lines. -/
theorem itemsOnLines_of_items {content : Text} {type : FileType} {options : ExtractOptions}
    {result : List Item} (h : items content type options = .ok result) :
    ItemsOnLines content type options result where
  ordered := by
    intro found hfound c hc
    exact ((inOrder_lineCount_foundItems hfound).within c hc).start_le
  comments := (inOrder_items h).within
  bodies := by
    intro hapart
    rw [items_eq_foundItems hapart] at h
    exact fitsSpan_foundItems h
  markup := by
    intro hapart kind hkind
    rw [items_eq_foundItems hapart] at h
    exact fillsSpan_foundItems hkind h
  strings := by
    intro delimiters hdelimited s hs
    obtain ⟨found, hfound, hperm⟩ := exists_stringsOf_perm h
    exact line_of_mem_foundItems hdelimited hfound s (hperm.mem_iff.mp hs)

theorem itemsOnLines_of_loneReturn :
    items "<!-- a\r b -->".toList .html { joinComments := false } =
        .ok [.comment (.written ["a".toList, "b".toList] 1 2)] ∧
      ItemsOnLines "<!-- a\r b -->".toList .html { joinComments := false }
        [.comment (.written ["a".toList, "b".toList] 1 2)] := by
  have hitems : items "<!-- a\r b -->".toList .html { joinComments := false } =
      .ok [.comment (.written ["a".toList, "b".toList] 1 2)] := by decide +kernel
  exact ⟨hitems, itemsOnLines_of_items hitems⟩

end LicenseText
