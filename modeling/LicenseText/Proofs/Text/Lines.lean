import LicenseText.Proofs.Text.Breaks
import LicenseText.Proofs.Text.Occurrence
import LicenseText.Text.Lines

/-!
# Texts put together from lines

`unlines` ends each of its lines with a line feed, and the lines of the result are these
lines, without a carriage return at their ends. The lines of a text have no characters but
those of the text, and behind whole lines the lines of what follows are its own.
`joinLines` puts line feeds between its lines, so a part without line feeds occurs in one
of them, and what is joined of some of the lines is found in what is joined of all.
-/

namespace LicenseText

namespace Text

def unlines (lines : List Text) : Text := lines.flatMap (· ++ ['\n'])

theorem splitOn_unlines {lines : List Text} (h : ∀ line ∈ lines, '\n' ∉ line) :
    (unlines lines).splitOn '\n' = lines ++ [[]] := by
  induction lines with
  | nil => rfl
  | cons line rest ih =>
      have hrest := ih fun later hlater => h later (List.mem_cons_of_mem _ hlater)
      rw [unlines, List.flatMap_cons, List.append_assoc, List.singleton_append, ← unlines,
        List.splitOn_append_cons_self_of_not_mem (h line (List.mem_cons_self ..)), hrest,
        List.cons_append]

theorem lines_unlines {lines : List Text} (h : ∀ line ∈ lines, '\n' ∉ line) :
    (unlines lines).lines = lines.map dropReturn := by
  rw [Text.lines, splitOn_unlines h]
  simp

/-! ## Lines of a text -/

theorem subset_of_mem_splitOn {t piece : Text} (h : piece ∈ t.splitOn '\n') : piece ⊆ t := by
  induction t generalizing piece with
  | nil =>
      obtain rfl : piece = [] := by simpa using h
      exact List.nil_subset _
  | cons c t ih =>
      have hlater : ∀ piece ∈ t.splitOn '\n', piece ⊆ c :: t := fun piece hpiece =>
        List.Subset.trans (ih hpiece) (List.subset_cons_self c t)
      rw [List.splitOn_cons_eq_if_modifyHead] at h
      split at h
      · rcases List.mem_cons.mp h with rfl | h
        · exact List.nil_subset _
        · exact hlater piece h
      · obtain ⟨first, rest, hpieces⟩ :=
          List.exists_cons_of_ne_nil (List.splitOn_ne_nil '\n' t)
        rw [hpieces] at h ih hlater
        rcases List.mem_cons.mp h with rfl | h
        · exact List.cons_subset_cons c (ih List.mem_cons_self)
        · exact hlater piece (List.mem_cons_of_mem _ h)

theorem dropReturn_subset (t : Text) : t.dropReturn ⊆ t := by
  rw [dropReturn]
  split
  · exact List.dropLast_subset t
  · exact List.Subset.refl t

/-- A line of a text has no characters but those of the text. -/
theorem subset_of_mem_lines {t line : Text} (h : line ∈ t.lines) : line ⊆ t := by
  rw [Text.lines] at h
  rcases List.mem_append.mp h with h | h
  · obtain ⟨piece, hpiece, rfl⟩ := List.mem_map.mp h
    exact List.Subset.trans (dropReturn_subset piece)
      (subset_of_mem_splitOn (List.dropLast_subset _ hpiece))
  · split at h
    · contradiction
    · contradiction
    · rename_i last hlast
      obtain rfl := List.mem_singleton.mp h
      exact subset_of_mem_splitOn (List.mem_of_getLast? hlast)

/-! ## Whole lines -/

/-- Whether a text consists of whole lines: it is empty or ends with a line feed. -/
def IsWholeLines (t : Text) : Prop := ∀ c ∈ t.getLast?, c = '\n'

theorem isWholeLines_iff (t : Text) :
    t.getLast?.all (· == '\n') = true ↔ t.IsWholeLines := by
  rw [IsWholeLines, Option.all_eq_true]
  simp

instance (t : Text) : Decidable t.IsWholeLines :=
  decidable_of_iff (t.getLast?.all (· == '\n') = true) t.isWholeLines_iff

theorem IsWholeLines.eq_nil_or_concat {t : Text} (h : t.IsWholeLines) :
    t = [] ∨ ∃ front, t = front ++ ['\n'] := by
  rcases List.eq_nil_or_concat t with rfl | ⟨front, c, rfl⟩
  · exact .inl rfl
  · have hc : c = '\n' := h c (by simp)
    exact .inr ⟨front, by rw [hc, List.concat_eq_append]⟩

theorem lines_append_cons (s t : Text) :
    (s ++ '\n' :: t).lines = (s.splitOn '\n').map dropReturn ++ t.lines := by
  have hne : t.splitOn '\n' ≠ [] := List.splitOn_ne_nil '\n' t
  rw [Text.lines, Text.lines, List.splitOn_append_cons_self, List.dropLast_append_of_ne_nil hne,
    List.map_append, List.getLast?_append_of_ne_nil _ hne, List.append_assoc]

/-- The lines of a text that continues whole lines are those of its two parts. -/
theorem lines_append {s : Text} (h : s.IsWholeLines) (t : Text) :
    (s ++ t).lines = s.lines ++ t.lines := by
  rcases h.eq_nil_or_concat with rfl | ⟨front, rfl⟩
  · rfl
  · have hnil : lines [] = [] := rfl
    rw [List.append_assoc, List.singleton_append, lines_append_cons, lines_append_cons, hnil,
      List.append_nil]

/-- Whole lines are as many as their line feeds. -/
theorem length_lines {t : Text} (h : t.IsWholeLines) : t.lines.length = breaks t := by
  rcases h.eq_nil_or_concat with rfl | ⟨front, rfl⟩
  · rfl
  · have hnil : lines [] = [] := rfl
    rw [lines_append_cons, hnil, List.append_nil, List.length_map, length_splitOn, breaks_append]
    rfl

theorem length_lines_le (t : Text) : t.lines.length ≤ breaks t + 1 := by
  have hlength := length_splitOn t
  rw [Text.lines, List.length_append, List.length_map, List.length_dropLast, hlength]
  split <;> simp

/-! ## Joined lines -/

theorem joinLines_cons_cons (line next : Text) (rest : List Text) :
    joinLines (line :: next :: rest) = line ++ '\n' :: joinLines (next :: rest) := by
  rw [joinLines, List.intercalate_cons_cons, List.append_assoc]
  rfl

theorem map_joinLines {f : Char → Char} (hf : f '\n' = '\n') (lines : List Text) :
    (joinLines lines).map f = joinLines (lines.map (List.map f)) := by
  induction lines with
  | nil => rfl
  | cons line rest ih =>
      cases rest with
      | nil => simp [joinLines]
      | cons next rest =>
          rw [joinLines_cons_cons, List.map_append, List.map_cons, hf, ih]
          exact (joinLines_cons_cons _ _ _).symm

/-- A part without line feeds occurs in joined lines exactly when it occurs in one of
them. -/
theorem infix_joinLines_iff {part : Text} (hne : part ≠ []) (hpart : '\n' ∉ part)
    (lines : List Text) :
    part <:+: joinLines lines ↔ ∃ line ∈ lines, part <:+: line := by
  induction lines with
  | nil => simp [joinLines, hne]
  | cons line rest ih =>
      cases rest with
      | nil => simp [joinLines]
      | cons next rest =>
          rw [joinLines_cons_cons, infix_append_cons_iff hpart, ih]
          simp

theorem splitOn_joinLines {lines : List Text} (h : lines ≠ []) :
    (joinLines lines).splitOn '\n' = lines.flatMap fun line => line.splitOn '\n' := by
  induction lines with
  | nil => contradiction
  | cons line rest ih =>
      cases rest with
      | nil => simp [joinLines]
      | cons next rest =>
          rw [joinLines_cons_cons, List.splitOn_append_cons_self, ih (List.cons_ne_nil _ _)]
          exact List.flatMap_cons.symm

/-- The lines of `part` stand one behind the other among the lines of `whole`. -/
def IsRunOfLines (part whole : Text) : Prop := part.splitOn '\n' <:+: whole.splitOn '\n'

theorem IsRunOfLines.refl (t : Text) : t.IsRunOfLines t := List.infix_refl _

theorem isRunOfLines_joinLines {part whole : List Text} (hne : part ≠ [])
    (h : part <:+: whole) : (joinLines part).IsRunOfLines (joinLines whole) := by
  obtain ⟨before, behind, rfl⟩ := h
  rw [IsRunOfLines, splitOn_joinLines hne, splitOn_joinLines (by simp [hne]),
    List.flatMap_append, List.flatMap_append]
  exact List.infix_append _ _ _

end Text

end LicenseText
