import Mathlib.Data.List.Basic
import LicenseText.Text.Basic

/-!
# Occurrences in a text

When a prefix, a suffix or an occurrence is found, which occurrence is the first, and how
far a part without a separator can reach: not across that separator.
-/

namespace LicenseText

namespace Text

variable {part s t : Text}

theorem isPrefixOf?_append (part rest : Text) :
    part.isPrefixOf? (part ++ rest) = some rest :=
  List.isPrefixOf?_eq_some_iff_append_eq.mpr rfl

theorem isSuffixOf?_append (front part : Text) :
    part.isSuffixOf? (front ++ part) = some front :=
  List.isSuffixOf?_eq_some_iff_append_eq.mpr rfl

theorem isPrefixOf?_eq_none (h : ¬part <+: t) : part.isPrefixOf? t = none := by
  rw [Option.eq_none_iff_forall_not_mem]
  intro rest hrest
  exact h ⟨rest, List.append_eq_of_isPrefixOf?_eq_some hrest⟩

theorem isSuffixOf?_eq_none (h : ¬part <:+ t) : part.isSuffixOf? t = none := by
  rw [Option.eq_none_iff_forall_not_mem]
  intro front hfront
  exact h ⟨front, List.append_eq_of_isSuffixOf?_eq_some hfront⟩

theorem beforeFrom?_eq_none (h : ¬part <:+: t) (seen : Text) :
    beforeFrom? part seen t = none := by
  induction t generalizing seen with
  | nil =>
      rw [beforeFrom?, if_neg]
      rw [List.isPrefixOf_iff_prefix]
      exact fun hpart => h hpart.isInfix
  | cons c rest ih =>
      rw [List.infix_cons_iff, not_or] at h
      rw [beforeFrom?, if_neg (by rw [List.isPrefixOf_iff_prefix]; exact h.1)]
      exact ih h.2 _

/-- A text is not cut where the part does not occur. -/
theorem before?_eq_none (h : ¬part <:+: t) : before? part t = none :=
  beforeFrom?_eq_none h []

theorem isPrefix_of_beforeFrom? {seen front : Text} (h : beforeFrom? part seen t = some front) :
    front <+: seen.reverse ++ t := by
  induction t generalizing seen with
  | nil =>
      rw [beforeFrom?] at h
      split at h
      · obtain rfl := Option.some.inj h
        exact List.prefix_append _ _
      · contradiction
  | cons c rest ih =>
      rw [beforeFrom?] at h
      split at h
      · obtain rfl := Option.some.inj h
        exact List.prefix_append _ _
      · have hrest := ih h
        rwa [List.reverse_cons, List.append_assoc] at hrest

/-- What stands in front of an occurrence is a prefix of the text. -/
theorem isPrefix_of_before? {front : Text} (h : before? part t = some front) : front <+: t :=
  isPrefix_of_beforeFrom? h

/-- A part is found in a text exactly when it occurs there. -/
theorem contains_iff_isInfix (part t : Text) : contains part t = true ↔ part <:+: t := by
  induction t with
  | nil =>
      rw [contains, List.isPrefixOf_iff_prefix, List.prefix_nil, List.infix_nil]
  | cons c rest ih =>
      rw [contains, Bool.or_eq_true, List.isPrefixOf_iff_prefix, ih, List.infix_cons_iff]

/-! ## The first occurrence -/

/-- The part occurs in the text behind `front`, and nowhere earlier. -/
structure FirstOccurrence (part front after t : Text) : Prop where
  eq_append : t = front ++ (part ++ after)
  first : ¬part <:+: (front ++ part).dropLast

theorem exists_firstOccurrence (hne : part ≠ []) (h : part <:+: t) :
    ∃ front after, FirstOccurrence part front after t := by
  induction t with
  | nil => exact absurd (List.infix_nil.mp h) hne
  | cons c rest ih =>
      by_cases hprefix : part <+: c :: rest
      · obtain ⟨after, hafter⟩ := hprefix
        refine ⟨[], after, hafter.symm, ?_⟩
        intro hinfix
        have hlength := hinfix.length_le
        have hpos := List.length_pos_of_ne_nil hne
        rw [List.nil_append, List.length_dropLast] at hlength
        omega
      · have hrest : part <:+: rest := (List.infix_cons_iff.mp h).resolve_left hprefix
        obtain ⟨front, after, heq, hfirst⟩ := ih hrest
        refine ⟨c :: front, after, by rw [heq, List.cons_append], ?_⟩
        have hnonempty : front ++ part ≠ [] := by simp [hne]
        rw [List.cons_append, List.dropLast_cons_of_ne_nil hnonempty, List.infix_cons_iff]
        rintro (hhead | htail)
        · apply hprefix
          have hdrop : c :: (front ++ part).dropLast <+: c :: rest := by
            rw [heq, ← List.append_assoc]
            exact List.cons_prefix_cons.mpr
              ⟨rfl, (List.dropLast_prefix _).trans (List.prefix_append _ _)⟩
          exact hhead.trans hdrop
        · exact hfirst htail

namespace FirstOccurrence

variable {front after : Text}

theorem isInfix (h : FirstOccurrence part front after t) : part <:+: t :=
  ⟨front, after, by rw [h.eq_append, List.append_assoc]⟩

/-- There is no occurrence in front of the first one. -/
theorem not_infix_front (hne : part ≠ []) (h : FirstOccurrence part front after t) :
    ¬part <:+: front := by
  intro hfront
  apply h.first
  rw [List.dropLast_append_of_ne_nil hne]
  exact List.infix_append_of_infix_left hfront

theorem beforeFrom?_eq_some (hne : part ≠ []) (seen : Text)
    (h : FirstOccurrence part front after t) :
    beforeFrom? part seen t = some (seen.reverse ++ front) := by
  obtain ⟨rfl, hfirst⟩ := h
  induction front generalizing seen with
  | nil =>
      obtain ⟨c, rest, rfl⟩ := List.exists_cons_of_ne_nil hne
      have hprefix : (c :: rest).isPrefixOf (c :: (rest ++ after)) = true := by
        rw [List.isPrefixOf_iff_prefix]
        exact List.prefix_append (c :: rest) after
      rw [List.nil_append, List.cons_append, beforeFrom?, if_pos hprefix, List.append_nil]
  | cons c front ih =>
      have hnonempty : front ++ part ≠ [] := by simp [hne]
      rw [List.cons_append, List.dropLast_cons_of_ne_nil hnonempty, List.infix_cons_iff,
        not_or] at hfirst
      have hprefix : ¬part.isPrefixOf (c :: (front ++ (part ++ after))) = true := by
        rw [List.isPrefixOf_iff_prefix, ← List.append_assoc]
        intro hpart
        apply hfirst.1
        have hdrop : c :: (front ++ part).dropLast <+: c :: (front ++ part ++ after) :=
          List.cons_prefix_cons.mpr
            ⟨rfl, (List.dropLast_prefix _).trans (List.prefix_append _ _)⟩
        apply List.prefix_of_prefix_length_le hpart hdrop
        rw [List.length_cons, List.length_dropLast, List.length_append]
        omega
      rw [List.cons_append, beforeFrom?, if_neg hprefix, ih _ hfirst.2]
      simp

/-- The text is cut at the first occurrence. -/
theorem before?_eq_some (hne : part ≠ []) (h : FirstOccurrence part front after t) :
    before? part t = some front :=
  h.beforeFrom?_eq_some hne []

end FirstOccurrence

/-! ## Parts without a separator -/

section Separator

variable {sep : Char}

/-- A prefix without a separator ends in front of the first separator. -/
theorem prefix_of_prefix_append_cons (hsep : sep ∉ part)
    (h : part <+: s ++ sep :: t) : part <+: s := by
  obtain ⟨rest, hrest⟩ := h
  rcases List.append_eq_append_iff.mp hrest with ⟨more, hs, -⟩ | ⟨more, hpart, hmore⟩
  · exact ⟨more, hs.symm⟩
  · cases more with
    | nil => exact ⟨[], by simpa using hpart⟩
    | cons c more =>
        obtain ⟨rfl, -⟩ := List.cons.inj hmore
        exact absurd (by simp [hpart]) hsep

/-- A suffix without a separator starts behind the last separator. -/
theorem suffix_of_suffix_append_cons (hsep : sep ∉ part)
    (h : part <:+ s ++ sep :: t) : part <:+ t := by
  rw [← List.reverse_prefix] at h ⊢
  rw [List.reverse_append, List.reverse_cons, List.append_assoc] at h
  exact prefix_of_prefix_append_cons (by simpa using hsep) h

/-- A part without a separator does not occur across a leading separator. -/
theorem infix_of_infix_cons (hsep : sep ∉ part) (h : part <:+: sep :: t) :
    part <:+: t := by
  rcases List.infix_cons_iff.mp h with h | h
  · have hnil : part <+: [] := prefix_of_prefix_append_cons hsep h
    rw [List.prefix_nil.mp hnil]
    exact List.nil_infix
  · exact h

/-- A part without a separator occurs on one side of a separator. -/
theorem infix_append_cons_iff (hsep : sep ∉ part) :
    part <:+: s ++ sep :: t ↔ part <:+: s ∨ part <:+: t := by
  constructor
  · intro h
    induction s with
    | nil => exact .inr (infix_of_infix_cons hsep h)
    | cons c s ih =>
        rcases List.infix_cons_iff.mp h with hprefix | hrest
        · have hfront : part <+: c :: s := prefix_of_prefix_append_cons hsep hprefix
          exact .inl hfront.isInfix
        · rcases ih hrest with hs | ht
          · exact .inl (List.infix_cons hs)
          · exact .inr ht
  · rintro (hs | ht)
    · exact List.infix_append_of_infix_left hs
    · exact List.infix_append_of_infix_right (List.infix_cons ht)

end Separator

end Text

end LicenseText
