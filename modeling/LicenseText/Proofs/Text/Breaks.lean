import LicenseText.Text.Blank

/-!
# Counting line feeds

How the number of line feeds in a text follows the parts of the text, and how it gives
the number of lines into which the text splits.
-/

namespace LicenseText

namespace Text

@[simp] theorem breaks_nil : breaks [] = 0 := rfl

@[simp] theorem breaks_append (s t : Text) : breaks (s ++ t) = breaks s + breaks t :=
  List.count_append

@[simp] theorem breaks_reverse (t : Text) : breaks t.reverse = breaks t :=
  List.count_reverse

theorem breaks_cons (c : Char) (t : Text) :
    breaks (c :: t) = breaks t + if c = '\n' then 1 else 0 := by
  simp [breaks, List.count_cons]

theorem breaks_eq_zero {t : Text} (h : '\n' ∉ t) : breaks t = 0 :=
  List.count_eq_zero.mpr h

theorem breaks_le_of_sublist {s t : Text} (h : s.Sublist t) : breaks s ≤ breaks t :=
  h.count_le '\n'

theorem splitOn_cons_of_ne {c : Char} (hc : c ≠ '\n') (t : Text) :
    (c :: t).splitOn '\n' = (t.splitOn '\n').modifyHead (c :: ·) := by
  rw [List.splitOn_cons_eq_if_modifyHead, if_neg (by simpa using hc)]

theorem length_splitOn (t : Text) : (t.splitOn '\n').length = breaks t + 1 := by
  induction t with
  | nil => rfl
  | cons c t ih =>
      rw [List.splitOn_cons_eq_if_modifyHead, breaks_cons]
      by_cases hc : c = '\n'
      · simp [hc, ih]
      · simp [hc, ih]

end Text

end LicenseText
