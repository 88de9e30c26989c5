import LicenseText.Extraction
import LicenseText.Proofs.Delimited.Completed
import LicenseText.Proofs.Item.InPlace

/-!
# Delimited documents keep the order of discovery

Whatever is found when a line is read ends on that line: a comment is complete with the line
that completes it, and the strings of a line stand on it. The items of a delimited document
are therefore found in the order of their last lines, and ordering them moves nothing. Only
a comment that the end of the document completes can end on an earlier line, behind which
strings have been found.
-/

namespace LicenseText

namespace Delimited

variable {delimiters : DelimitedSyntax} {withStrings : Bool} {state : BlockState}

/-- Along lines with increasing numbers the items are found in the order of their last
lines. -/
theorem pairwise_lastLine_foundAlong {lines : List NumberedLine}
    (hlines : lines.Pairwise fun line later => line.number < later.number) :
    (foundAlong delimiters withStrings state lines).Pairwise
      fun a b => a.lastLine ≤ b.lastLine := by
  induction lines generalizing state with
  | nil => exact .nil
  | cons line rest ih =>
      obtain ⟨hlater, hrest⟩ := List.pairwise_cons.mp hlines
      rw [foundAlong, List.pairwise_append]
      refine ⟨?_, ih hrest, ?_⟩
      · apply List.pairwise_of_forall_mem_list
        intro a ha b hb
        rw [lastLine_of_mem_line ha, lastLine_of_mem_line hb]
      · intro a ha b hb
        obtain ⟨later, hmem, heq⟩ := exists_line_of_mem_foundAlong hb
        rw [lastLine_of_mem_line ha, heq]
        exact Nat.le_of_lt (hlater later hmem)

/-- A document that leaves no block open, or drops the open one, has its items in the order
of their last lines. -/
theorem pairwise_lastLine_read (withStrings : Bool) {policy : OpenBlockPolicy}
    {content : Text}
    (h : policy = .discard ∨
      (stateAfter delimiters .outside (readableLines content)).inBlock = false) :
    (read delimiters withStrings policy content).Pairwise
      fun a b => a.lastLine ≤ b.lastLine := by
  rw [read_eq_foundAlong withStrings h]
  exact pairwise_lastLine_foundAlong (pairwise_number_readableLines content)

end Delimited

/-- When a document of a delimited language leaves no block open, or the open one is dropped,
joining comments moves nothing: its items are those found with the groups of neighbouring
comments joined in place. -/
theorem items_joinInPlace {type : FileType} {delimiters : DelimitedSyntax}
    (htype : type.syntax? = some (.delimited delimiters)) (content : Text)
    (options : ExtractOptions)
    (hclosed : options.openBlock = .discard ∨
      (Delimited.stateAfter delimiters .outside
        (Delimited.readableLines content)).inBlock = false) :
    ∃ found,
      items content type { options with joinComments := false } = .ok found ∧
      items content type { options with joinComments := true } =
        .ok ((joinInPlace (rankItems found)).map RankedItem.item) ∧
      JoinsInPlace found (joinInPlace (rankItems found)) := by
  let found := Delimited.read delimiters options.includeStrings options.openBlock content
  have hfound : ∀ join, foundItems content type { options with joinComments := join } =
      .ok found := by
    intro join
    rw [foundItems, htype]
  refine ⟨found, ?_, ?_, joinsInPlace found⟩
  · rw [items, hfound]
    rfl
  · have hlines := Delimited.pairwise_lastLine_read options.includeStrings hclosed
    rw [items, hfound, ← orderedItems_eq_joinInPlace hlines]
    rfl

theorem items_joinInPlace_of_code :
    (FileType.java.syntax? = some (.delimited .cLike) ∧
      (Delimited.stateAfter .cLike .outside (Delimited.readableLines
        "// \"a\"\n// b\n/* c\n\"d\" */\n".toList)).inBlock = false) ∧
    ∃ found,
      items "// \"a\"\n// b\n/* c\n\"d\" */\n".toList .java
          { joinComments := false } = .ok found ∧
      items "// \"a\"\n// b\n/* c\n\"d\" */\n".toList .java {} =
        .ok ((joinInPlace (rankItems found)).map RankedItem.item) ∧
      JoinsInPlace found (joinInPlace (rankItems found)) := by
  have hclosed : (Delimited.stateAfter .cLike .outside (Delimited.readableLines
      "// \"a\"\n// b\n/* c\n\"d\" */\n".toList)).inBlock = false := by decide +kernel
  exact ⟨⟨rfl, hclosed⟩, items_joinInPlace rfl _ {} (.inr hclosed)⟩

end LicenseText
