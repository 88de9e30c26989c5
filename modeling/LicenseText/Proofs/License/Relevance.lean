import LicenseText.License.Relevance
import LicenseText.Proofs.Text.Lines

/-!
# Relevance line by line

No trigger holds a line feed, so a literal of several lines is relevant exactly when one
of its lines is.
-/

namespace LicenseText

theorem isRelevant_iff (literal : Text) :
    isRelevant literal = true ↔
      ∃ trigger ∈ triggers, trigger <:+: literal.lowerAscii := by
  rw [isRelevant, List.any_eq_true]
  simp only [Text.contains_iff_isInfix]

theorem trigger_ne_nil {trigger : Text} (h : trigger ∈ triggers) : trigger ≠ [] := by
  revert trigger
  decide

theorem newline_not_mem_trigger {trigger : Text} (h : trigger ∈ triggers) :
    '\n' ∉ trigger := by
  revert trigger
  decide

/-- A literal of several lines is relevant exactly when one of its lines is. -/
theorem isRelevant_joinLines (lines : List Text) :
    isRelevant (Text.joinLines lines) = true ↔ ∃ line ∈ lines, isRelevant line = true := by
  have hlower : (Text.joinLines lines).lowerAscii =
      Text.joinLines (lines.map Text.lowerAscii) :=
    Text.map_joinLines (by decide) lines
  simp only [isRelevant_iff, hlower]
  constructor
  · rintro ⟨trigger, htrigger, hinfix⟩
    rw [Text.infix_joinLines_iff (trigger_ne_nil htrigger)
      (newline_not_mem_trigger htrigger)] at hinfix
    obtain ⟨lower, hlower, hline⟩ := hinfix
    obtain ⟨line, hmem, rfl⟩ := List.mem_map.mp hlower
    exact ⟨line, hmem, trigger, htrigger, hline⟩
  · rintro ⟨line, hmem, trigger, htrigger, hline⟩
    refine ⟨trigger, htrigger, ?_⟩
    rw [Text.infix_joinLines_iff (trigger_ne_nil htrigger)
      (newline_not_mem_trigger htrigger)]
    exact ⟨line.lowerAscii, List.mem_map_of_mem hmem, hline⟩

theorem Division.hasRelevant_iff {division : Division} :
    division.hasRelevant = true ↔ division.relevant ≠ [] := by
  rw [hasRelevant, Bool.not_eq_true', List.isEmpty_eq_false_iff]

theorem Division.blob_eq_nil_iff {literals : List Text} :
    Division.blob literals = [] ↔ literals = [] := by
  rw [Division.blob, List.flatMap_eq_nil_iff, List.eq_nil_iff_forall_not_mem]
  simp

/-- There is relevant text exactly when one of the literals is relevant. -/
theorem hasRelevant_divide (literals : List Text) :
    (divide literals).hasRelevant = true ↔
      ∃ literal ∈ literals, isRelevant literal = true := by
  rw [Division.hasRelevant_iff, divide, ne_eq, Division.blob_eq_nil_iff, List.filter_eq_nil_iff]
  simp

/-- Every literal is in one of the two texts. -/
theorem divide_eq_nil_iff {literals : List Text} :
    divide literals = ⟨[], []⟩ ↔ literals = [] := by
  rw [divide, Division.mk.injEq, Division.blob_eq_nil_iff, Division.blob_eq_nil_iff,
    List.filter_eq_nil_iff, List.filter_eq_nil_iff, List.eq_nil_iff_forall_not_mem]
  constructor
  · rintro ⟨hrelevant, hother⟩ literal hliteral
    exact hother literal hliteral (by simpa using hrelevant literal hliteral)
  · intro h
    exact ⟨fun literal hliteral => absurd hliteral (h literal),
      fun literal hliteral => absurd hliteral (h literal)⟩

end LicenseText
