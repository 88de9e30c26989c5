import LicenseText.Proofs.Text.Trim

/-!
# Words of a text

The words of a text are found on the two sides of a blank independently, so blanks at its
ends make no difference, and words with blanks between them are the words of the text that
they make up.
-/

namespace LicenseText

namespace Text

def IsSolid (t : Text) : Prop := ∀ c ∈ t, isBlank c = false

instance (t : Text) : Decidable t.IsSolid :=
  List.decidableBAll (isBlank · = false) t

structure IsWord (t : Text) : Prop where
  ne_nil : t ≠ []
  solid : t.IsSolid

structure IsGap (t : Text) : Prop where
  ne_nil : t ≠ []
  blank : t.IsBlank

instance (t : Text) : Decidable t.IsGap :=
  decidable_of_iff (t ≠ [] ∧ t.IsBlank) ⟨fun ⟨a, b⟩ => ⟨a, b⟩, fun ⟨a, b⟩ => ⟨a, b⟩⟩

section Words

variable {gap word : Text}

theorem words_append_cons {c : Char} (hc : isBlank c = true) (s t : Text) :
    words (s ++ c :: t) = words s ++ words t := by
  rw [words, List.splitOnP_append_cons s t hc, List.filter_append]
  rfl

theorem words_blank_append (hgap : gap.IsBlank) (t : Text) : words (gap ++ t) = words t := by
  induction gap with
  | nil => rfl
  | cons c gap ih =>
      obtain ⟨hc, hgap⟩ := List.forall_mem_cons.mp hgap
      have hcons := words_append_cons hc [] (gap ++ t)
      rw [List.nil_append] at hcons
      rw [List.cons_append, hcons, ih hgap]
      rfl

theorem words_append_gap (hgap : gap.IsGap) (s t : Text) :
    words (s ++ (gap ++ t)) = words s ++ words t := by
  obtain ⟨c, rest, rfl⟩ := List.exists_cons_of_ne_nil hgap.ne_nil
  obtain ⟨hc, hrest⟩ := List.forall_mem_cons.mp hgap.blank
  rw [List.cons_append, words_append_cons hc, words_blank_append hrest]

theorem words_append_blank (hgap : gap.IsBlank) (s : Text) : words (s ++ gap) = words s := by
  by_cases hnil : gap = []
  · rw [hnil, List.append_nil]
  · have happend := words_append_gap ⟨hnil, hgap⟩ s []
    rwa [List.append_nil, show words [] = [] from rfl, List.append_nil] at happend

theorem words_trimEnd (t : Text) : words t.trimEnd = words t := by
  have hparts : t.trimEnd ++ (t.reverse.takeWhile isBlank).reverse = t := by
    rw [trimEnd, ← List.reverse_append, List.takeWhile_append_dropWhile, List.reverse_reverse]
  have hblank : IsBlank (t.reverse.takeWhile isBlank).reverse := by
    intro c hc
    exact List.all_eq_true.mp List.all_takeWhile c (List.mem_reverse.mp hc)
  conv_rhs => rw [← hparts]
  exact (words_append_blank hblank _).symm

theorem words_of_isWord (hword : word.IsWord) : words word = [word] := by
  have hempty : word.isEmpty = false := List.isEmpty_eq_false_iff.mpr hword.ne_nil
  rw [words, List.splitOnP_eq_singleton hword.solid]
  simp [hempty]

theorem mem_of_mem_words {c : Char} {t : Text} (hword : word ∈ t.words) (hc : c ∈ word) :
    c ∈ t := by
  have hpiece : word ∈ t.splitOnP isBlank := List.mem_of_mem_filter hword
  clear hword
  induction t generalizing word with
  | nil =>
      rw [List.splitOnP_nil, List.mem_singleton] at hpiece
      rwa [hpiece] at hc
  | cons d t ih =>
      obtain ⟨first, rest, hsplit⟩ := List.exists_cons_of_ne_nil (List.splitOnP_ne_nil isBlank t)
      rw [hsplit] at ih
      rw [List.splitOnP_cons_eq_if_modifyHead, hsplit] at hpiece
      split at hpiece
      · rcases List.mem_cons.mp hpiece with rfl | hpiece
        · cases hc
        · exact List.mem_cons_of_mem d (ih hc hpiece)
      · rcases List.mem_cons.mp hpiece with rfl | hpiece
        · rcases List.mem_cons.mp hc with rfl | hc
          · exact List.mem_cons_self
          · exact List.mem_cons_of_mem d (ih hc List.mem_cons_self)
        · exact List.mem_cons_of_mem d (ih hc (List.mem_cons_of_mem first hpiece))

/-- Words behind a text, each behind a gap, are words of the text that they make up. -/
theorem words_append_flatMap {pieces : List (Text × Text)}
    (hpieces : ∀ piece ∈ pieces, IsGap piece.1 ∧ IsWord piece.2) (s : Text) :
    words (s ++ pieces.flatMap fun piece => piece.1 ++ piece.2) =
      words s ++ pieces.map Prod.snd := by
  induction pieces generalizing s with
  | nil => simp
  | cons piece rest ih =>
      obtain ⟨⟨hgap, hword⟩, hrest⟩ := List.forall_mem_cons.mp hpieces
      rw [List.flatMap_cons, List.append_assoc, words_append_gap hgap, ih hrest,
        words_of_isWord hword]
      rfl

end Words

theorem mem_intercalate {sep : Text} {c : Char} {texts : List Text}
    (h : c ∈ sep.intercalate texts) : c ∈ sep ∨ ∃ t ∈ texts, c ∈ t := by
  induction texts with
  | nil => cases h
  | cons t texts ih =>
      by_cases hnil : texts = []
      · rw [hnil, List.intercalate_singleton] at h
        exact Or.inr ⟨t, List.mem_cons_self, h⟩
      · rw [List.intercalate_cons_of_ne_nil hnil, List.mem_append, List.mem_append] at h
        rcases h with (h | h) | h
        · exact Or.inr ⟨t, List.mem_cons_self, h⟩
        · exact Or.inl h
        · exact (ih h).imp_right fun ⟨other, hother, hc⟩ =>
            ⟨other, List.mem_cons_of_mem t hother, hc⟩

/-! ## The name at the end of a word -/

theorem getLast?_splitOn_append {sep : Char} {name : Text} (hname : sep ∉ name) (front : Text) :
    ((front ++ sep :: name).splitOn sep).getLast? = some name := by
  rw [List.splitOn_append_cons_self, List.splitOn_eq_singleton hname, List.getLast?_concat]

end Text

end LicenseText
