import LicenseText.Proofs.Delimited.LineAccount

/-!
# The comments of a delimited document stand in order

The comments of a document stand on lines of the document with increasing numbers, and no
line serves two comments. So each comment starts and ends on a line of the document, spans
at least as many lines as its body has, and ends in front of the next one.
-/

namespace LicenseText

/-- Of lines with increasing numbers there are no more than the numbers from the first to the
last. -/
theorem number_add_length_le {lines : List NumberedLine} {first last : NumberedLine}
    (hlines : lines.Pairwise fun line later => line.number < later.number)
    (hfirst : lines.head? = some first) (hlast : lines.getLast? = some last) :
    first.number + lines.length ≤ last.number + 1 := by
  induction lines generalizing first with
  | nil => contradiction
  | cons line rest ih =>
      obtain rfl := Option.some.inj hfirst
      obtain ⟨hlater, hrest⟩ := List.pairwise_cons.mp hlines
      cases rest with
      | nil =>
          obtain rfl := Option.some.inj hlast
          exact Nat.le_refl _
      | cons next rest =>
          have hnext := hlater next List.mem_cons_self
          rw [List.getLast?_cons_cons] at hlast
          have hlength := ih hrest rfl hlast
          rw [List.length_cons]
          omega

namespace Comment.StandsOn

variable {c : Comment} {lines : List NumberedLine}

theorem startLine_add_length_le (h : c.StandsOn lines)
    (hlines : lines.Pairwise fun line later => line.number < later.number) :
    1 ≤ c.body.length ∧ c.startLine + c.body.length ≤ c.endLine + 1 := by
  obtain ⟨first, hfirst, hstart⟩ := Option.map_eq_some_iff.mp h.start
  obtain ⟨last, hlast, hstop⟩ := Option.map_eq_some_iff.mp h.stop
  rw [h.body.length_eq, ← hstart, ← hstop]
  have hne : lines ≠ [] := List.ne_nil_of_mem (List.mem_of_head? hfirst)
  exact ⟨List.length_pos_of_ne_nil hne, number_add_length_le hlines hfirst hlast⟩

/-- A comment spans the lines that it stands on. -/
theorem fitsSpan (h : c.StandsOn lines)
    (hlines : lines.Pairwise fun line later => line.number < later.number) : c.FitsSpan := by
  obtain ⟨hpos, hlength⟩ := h.startLine_add_length_le hlines
  exact ⟨hpos, by omega⟩

end Comment.StandsOn

namespace Delimited

variable (delimiters : DelimitedSyntax) (withStrings : Bool) (policy : OpenBlockPolicy)
variable (content : Text)

/-- The lines of which the comments of a document are made are lines of the document. -/
theorem exists_sources_sublist :
    ∃ sources,
      List.Forall₂ Comment.StandsOn
        (commentsOf (read delimiters withStrings policy content)) sources ∧
      sources.flatten.Sublist (readableLines content) := by
  obtain ⟨sources, rest, hsources, hflatten, -⟩ :=
    exists_sources_read delimiters withStrings policy content
  have hcontributing := @contributing_sublist delimiters .outside (readableLines content)
  rw [← hflatten] at hcontributing
  exact ⟨sources, hsources, (List.sublist_append_left _ _).trans hcontributing⟩

/-- A comment of a document stands on lines of the document. -/
theorem exists_standsOn_of_read {c : Comment}
    (hc : c ∈ commentsOf (read delimiters withStrings policy content)) :
    ∃ lines, c.StandsOn lines ∧ lines.Sublist (readableLines content) := by
  obtain ⟨sources, hsources, hreadable⟩ :=
    exists_sources_sublist delimiters withStrings policy content
  obtain ⟨lines, hlines, hstands⟩ := exists_standsOn_of_mem hsources hc
  exact ⟨lines, hstands, (List.sublist_flatten_of_mem hlines).trans hreadable⟩

/-- The comments of a document that a delimited language reads are in order, on the lines of
the document. -/
theorem inOrder_read :
    Comment.InOrder 1 (1 + Text.breaks content)
      (commentsOf (read delimiters withStrings policy content)) := by
  have hnumbers := pairwise_number_readableLines content
  obtain ⟨sources, hsources, hreadable⟩ :=
    exists_sources_sublist delimiters withStrings policy content
  have hapart := pairwise_endLine_lt_startLine hsources (hnumbers.sublist hreadable)
  apply Comment.InOrder.of_pairwise (Nat.le_add_right 1 _)
  · intro c hc
    obtain ⟨lines, hstands, hlines⟩ :=
      exists_standsOn_of_read delimiters withStrings policy content hc
    obtain ⟨first, hfirst, hstart⟩ := hstands.exists_start
    obtain ⟨last, hlast, hstop⟩ := hstands.exists_stop
    have hspan := hstands.startLine_add_length_le (hnumbers.sublist hlines)
    have hfirst := number_of_mem_readableLines (hlines.subset hfirst)
    have hlast := number_of_mem_readableLines (hlines.subset hlast)
    exact ⟨by omega, by omega, by omega⟩
  · exact hapart.imp Nat.le_of_lt

/-- A comment of a document has no more lines than it spans. -/
theorem fitsSpan_read :
    ∀ c ∈ commentsOf (read delimiters withStrings policy content), c.FitsSpan := by
  intro c hc
  obtain ⟨lines, hstands, hlines⟩ :=
    exists_standsOn_of_read delimiters withStrings policy content hc
  exact hstands.fitsSpan ((pairwise_number_readableLines content).sublist hlines)

/-- A string of a document stands on a line of the document. -/
theorem line_of_mem_read :
    ∀ s ∈ stringsOf (read delimiters withStrings policy content),
      1 ≤ s.line ∧ s.line ≤ 1 + Text.breaks content := by
  intro s hs
  rw [read_eq] at hs
  rcases List.mem_append.mp (mem_stringsOf.mp hs) with hfound | hopen
  · obtain ⟨line, hline, hnumber⟩ := exists_line_of_mem_foundAlong hfound
    rw [Item.lastLine] at hnumber
    rw [hnumber]
    exact number_of_mem_readableLines hline
  · obtain ⟨c, -, hstring⟩ := Option.map_eq_some_iff.mp (Option.mem_toList.mp hopen)
    contradiction

end Delimited

end LicenseText
