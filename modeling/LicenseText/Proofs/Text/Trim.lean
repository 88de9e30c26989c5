import Mathlib.Data.List.Basic
import LicenseText.Proofs.Text.Occurrence
import LicenseText.Text.Blank
import LicenseText.Text.Lines

/-!
# Trimmed texts

A text is trimmed when it neither starts nor ends with a blank. Blanks around a text are
lost to trimming, and a space between two trimmed texts is kept unless one of them is
empty.
-/

namespace LicenseText

namespace Text

theorem trim_sublist (t : Text) : t.trim.Sublist t := by
  have hend : t.trimStart.trimEnd.Sublist t.trimStart := by
    have h := List.dropWhile_sublist isBlank (l := t.trimStart.reverse)
    simpa [trimEnd] using h.reverse
  exact hend.trans (List.dropWhile_sublist _)

theorem trim_cons_blank {c : Char} (hc : isBlank c = true) (t : Text) :
    trim (c :: t) = trim t := by
  rw [trim, trimStart, List.dropWhile_cons_of_pos hc]
  rfl

theorem trimEnd_concat_blank {c : Char} (hc : isBlank c = true) (t : Text) :
    trimEnd (t ++ [c]) = trimEnd t := by
  rw [trimEnd, List.reverse_concat, List.dropWhile_cons_of_pos hc]
  rfl

theorem trim_concat_blank {c : Char} (hc : isBlank c = true) (t : Text) :
    trim (t ++ [c]) = trim t := by
  rw [trim, trimStart, List.dropWhile_append]
  split
  case isTrue hnil =>
    rw [trim, trimStart, List.isEmpty_iff.mp hnil, List.dropWhile_cons_of_pos hc]
    rfl
  case isFalse => exact trimEnd_concat_blank hc _

/-- A character that is not blank stays in front of what is trimmed at its end. -/
theorem trimEnd_cons_solid {c : Char} (hc : isBlank c = false) (t : Text) :
    trimEnd (c :: t) = c :: trimEnd t := by
  rw [trimEnd, trimEnd, List.reverse_cons, List.dropWhile_append]
  split
  case isTrue hnil =>
    rw [List.isEmpty_iff.mp hnil, List.dropWhile_cons_of_neg (Bool.eq_false_iff.mp hc)]
    rfl
  case isFalse => exact List.reverse_concat

/-- A text is trimmed exactly when no blank stands at either end. -/
theorem trim_eq_self_iff {t : Text} :
    trim t = t ↔
      (∀ c ∈ t.head?, isBlank c = false) ∧ (∀ c ∈ t.getLast?, isBlank c = false) := by
  constructor
  · intro h
    refine ⟨?_, ?_⟩
    · intro c hc
      obtain ⟨rest, rfl⟩ := List.head?_eq_some_iff.mp hc
      by_contra hblank
      rw [Bool.not_eq_false] at hblank
      have hlength := (trim_sublist rest).length_le
      rw [← trim_cons_blank hblank, h] at hlength
      exact Nat.not_succ_le_self _ hlength
    · intro c hc
      obtain ⟨front, rfl⟩ := List.getLast?_eq_some_iff.mp hc
      by_contra hblank
      rw [Bool.not_eq_false] at hblank
      have hlength := (trim_sublist front).length_le
      rw [← trim_concat_blank hblank, h,
        List.length_append] at hlength
      exact Nat.not_succ_le_self _ hlength
  · rintro ⟨hhead, hlast⟩
    have hstart : trimStart t = t := by
      cases t with
      | nil => rfl
      | cons c rest =>
          exact List.dropWhile_cons_of_neg (Bool.eq_false_iff.mp (hhead c rfl))
    rw [trim, hstart]
    rcases List.eq_nil_or_concat t with rfl | ⟨front, c, rfl⟩
    · rfl
    · have hc : ¬isBlank c = true := Bool.eq_false_iff.mp (hlast c (by simp))
      rw [trimEnd, List.concat_eq_append, List.reverse_concat,
        List.dropWhile_cons_of_neg hc, List.reverse_cons, List.reverse_reverse]

theorem trim_eq_self {t : Text} (h : ∀ c ∈ t, isBlank c = false) : trim t = t :=
  trim_eq_self_iff.mpr
    ⟨fun c hc => h c (List.mem_of_head? hc), fun c hc => h c (List.mem_of_getLast? hc)⟩

/-- Nothing remains of a text exactly when it is blank. -/
theorem isEmpty_trim (t : Text) : t.trim.isEmpty = t.all isBlank := by
  induction t with
  | nil => rfl
  | cons c t ih =>
      cases hc : isBlank c with
      | true => rw [trim_cons_blank hc, ih, List.all_cons, hc, Bool.true_and]
      | false =>
          have hstart : trimStart (c :: t) = c :: t :=
            List.dropWhile_cons_of_neg (Bool.eq_false_iff.mp hc)
          have hne : trim (c :: t) ≠ [] := by
            rw [trim, hstart, trimEnd, List.reverse_cons, List.dropWhile_append]
            split <;> simp [hc]
          rw [List.all_cons, hc, Bool.false_and, List.isEmpty_eq_false_iff]
          exact hne

/-! ## Texts of blanks -/

def IsBlank (t : Text) : Prop := ∀ c ∈ t, isBlank c = true

instance (t : Text) : Decidable t.IsBlank :=
  List.decidableBAll (isBlank · = true) t

namespace IsBlank

variable {t : Text}

theorem all_eq_true (h : t.IsBlank) : t.all isBlank = true := List.all_eq_true.mpr h

theorem not_mem (h : t.IsBlank) {c : Char} (hc : isBlank c = false) : c ∉ t := by
  intro hmem
  have hblank := h c hmem
  rw [hc] at hblank
  contradiction

theorem head?_ne (h : t.IsBlank) {c : Char} (hc : isBlank c = false) : t.head? ≠ some c :=
  fun hhead => h.not_mem hc (List.mem_of_head? hhead)

end IsBlank

/-! ## What trimming removes -/

theorem exists_trim_parts (t : Text) :
    ∃ lead trail, t = lead ++ (t.trim ++ trail) ∧ (∀ c ∈ lead, isBlank c = true) ∧
      ∀ c ∈ trail, isBlank c = true := by
  have hstart : t.takeWhile isBlank ++ t.trimStart = t := List.takeWhile_append_dropWhile
  have hend : (t.trimStart.reverse.dropWhile isBlank).reverse ++
      (t.trimStart.reverse.takeWhile isBlank).reverse = t.trimStart := by
    rw [← List.reverse_append, List.takeWhile_append_dropWhile, List.reverse_reverse]
  refine ⟨t.takeWhile isBlank, (t.trimStart.reverse.takeWhile isBlank).reverse, ?_, ?_, ?_⟩
  · rw [trim, trimEnd, hend, hstart]
  · exact List.all_eq_true.mp List.all_takeWhile
  · intro c hc
    exact List.all_eq_true.mp List.all_takeWhile c (List.mem_reverse.mp hc)

/-- A trimmed text is a part of the text. -/
theorem isInfix_trim (t : Text) : t.trim <:+: t := by
  obtain ⟨lead, trail, ht, -, -⟩ := exists_trim_parts t
  exact ⟨lead, trail, by rw [List.append_assoc, ← ht]⟩

theorem infix_of_infix_blanks_append {part lead t : Text} (hne : part ≠ [])
    (hpart : ∀ c ∈ part, isBlank c = false) (hlead : ∀ c ∈ lead, isBlank c = true)
    (h : part <:+: lead ++ t) : part <:+: t := by
  have hclash : ∀ c ∈ part, c ∉ lead := by
    intro c hc hmem
    have hblank := hlead c hmem
    rw [hpart c hc] at hblank
    contradiction
  rcases List.infix_append_iff_ne_nil.mp h with h | h | ⟨s, rest, hs, -, rfl, hsuffix, -⟩
  · obtain ⟨c, hc⟩ := List.exists_mem_of_ne_nil part hne
    exact absurd (h.subset hc) (hclash c hc)
  · exact h
  · obtain ⟨c, hc⟩ := List.exists_mem_of_ne_nil s hs
    exact absurd (hsuffix.subset hc) (hclash c (List.mem_append_left _ hc))

/-- A part without blanks occurs in a trimmed text exactly when it occurs in the text. -/
theorem infix_trim_iff {part : Text} (hne : part ≠ [])
    (hpart : ∀ c ∈ part, isBlank c = false) (t : Text) : part <:+: t.trim ↔ part <:+: t := by
  obtain ⟨lead, trail, ht, hlead, htrail⟩ := exists_trim_parts t
  constructor
  · intro h
    rw [ht]
    exact List.infix_append_of_infix_right (List.infix_append_of_infix_left h)
  · intro h
    rw [ht] at h
    have hfront := infix_of_infix_blanks_append hne hpart hlead h
    rw [← List.reverse_infix, List.reverse_append] at hfront
    have hback := infix_of_infix_blanks_append (by simpa using hne) (by simpa using hpart)
      (by simpa using htrail) hfront
    exact List.reverse_infix.mp hback

/-! ## Characters that are not blank -/

def solidCount (t : Text) : Nat := t.countP fun c => !isBlank c

@[simp] theorem solidCount_append (s t : Text) :
    solidCount (s ++ t) = solidCount s + solidCount t := List.countP_append

theorem solidCount_le_length (t : Text) : solidCount t ≤ t.length := List.countP_le_length

theorem solidCount_of_isBlank {t : Text} (h : t.IsBlank) : solidCount t = 0 := by
  apply List.countP_eq_zero.mpr
  intro c hc
  simp [h c hc]

theorem solidCount_trim (t : Text) : solidCount t.trim = solidCount t := by
  obtain ⟨lead, trail, ht, hlead, htrail⟩ := exists_trim_parts t
  have hcount := congrArg solidCount ht
  rw [solidCount_append, solidCount_append, solidCount_of_isBlank hlead,
    solidCount_of_isBlank htrail] at hcount
  omega

/-- The trimmed lines of a text hold all of its characters that are not blank. -/
theorem solidCount_lines (t : Text) :
    solidCount ((t.splitOn '\n').map trim).flatten = solidCount t := by
  induction t with
  | nil => rfl
  | cons c t ih =>
      obtain ⟨first, rest, hpieces⟩ := List.exists_cons_of_ne_nil (List.splitOn_ne_nil '\n' t)
      have hcons : solidCount (c :: t) = solidCount [c] + solidCount t := solidCount_append [c] t
      have hfirst : solidCount (c :: first) = solidCount [c] + solidCount first :=
        solidCount_append [c] first
      rw [hpieces, List.map_cons, List.flatten_cons, solidCount_append, solidCount_trim] at ih
      rw [List.splitOn_cons_eq_if_modifyHead, hcons]
      by_cases hc : c = '\n'
      · subst hc
        have hbreak : solidCount ['\n'] = 0 := by decide
        have hnil : solidCount (trim []) = 0 := rfl
        rw [if_pos (beq_self_eq_true _), hpieces, List.map_cons, List.map_cons,
          List.flatten_cons, List.flatten_cons, solidCount_append, solidCount_append,
          solidCount_trim first, ih, hbreak, hnil]
      · rw [if_neg (by simpa using hc), hpieces, List.modifyHead_cons, List.map_cons,
          List.flatten_cons, solidCount_append, solidCount_trim, hfirst]
        omega

/-! ## Spaces -/

theorem trim_cons_space {t : Text} (ht : trim t = t) : trim (' ' :: t) = t := by
  rw [trim_cons_blank (by decide), ht]

theorem trim_concat_space {t : Text} (ht : trim t = t) : trim (t ++ [' ']) = t := by
  rw [trim_concat_blank (by decide), ht]

/-- A space between two trimmed texts that are not empty stands at no end. -/
theorem trim_append_space {s t : Text} (hs : trim s = s) (hne : s ≠ []) (ht : trim t = t)
    (htne : t ≠ []) : trim (s ++ ' ' :: t) = s ++ ' ' :: t := by
  obtain ⟨a, front, rfl⟩ := List.exists_cons_of_ne_nil hne
  obtain ⟨b, rest, rfl⟩ := List.exists_cons_of_ne_nil htne
  refine trim_eq_self_iff.mpr ⟨(trim_eq_self_iff.mp hs).1, ?_⟩
  rw [List.getLast?_append, List.getLast?_cons_cons]
  intro c hc
  apply (trim_eq_self_iff.mp ht).2
  cases hlast : (b :: rest).getLast? with
  | none => simp at hlast
  | some d => simpa [hlast] using hc

theorem trim_dropReturn (t : Text) : trim (dropReturn t) = trim t := by
  rw [dropReturn]
  split
  case isTrue h =>
    obtain ⟨front, rfl⟩ := List.getLast?_eq_some_iff.mp h
    rw [List.dropLast_concat, trim_concat_blank (by decide)]
  case isFalse => rfl

end Text

end LicenseText
