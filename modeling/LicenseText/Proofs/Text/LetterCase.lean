import Mathlib.Data.List.Infix
import LicenseText.Text.Case

/-!
# Lower case and ASCII folding

Lower case in full may depend on where a character stands, as it does for the sigma at the
end of a word, so it is stated as a relation (`LowersTo`). Only the Kelvin sign and the
capital I with a dot above bring ASCII characters into a text that had none in their
place. So a word of ASCII characters that has no k and does not end in an i occurs in the
lower case of a text exactly when it occurs in the text with A to Z folded alone.
-/

namespace LicenseText

abbrev IsAscii (c : Char) : Prop := c.toNat < 0x80

/-- The text may be the lower case of the character. -/
inductive LowersCharTo : Char → Text → Prop
  | ascii {c : Char} (hc : IsAscii c) : LowersCharTo c [c.toLower]
  | kelvin : LowersCharTo '\u212A' ['k']
  | dotted : LowersCharTo '\u0130' ['i', '\u0307']
  | beyond {c : Char} {image : Text} (hc : ¬IsAscii c) (hne : image ≠ [])
      (himage : ∀ d ∈ image, ¬IsAscii d) : LowersCharTo c image

/-- The second text may be the lower case of the first. Where a character stands may
decide which of its lower cases is taken. -/
inductive LowersTo : Text → Text → Prop
  | nil : LowersTo [] []
  | cons {c : Char} {image t lowered : Text} (hc : LowersCharTo c image)
      (ht : LowersTo t lowered) : LowersTo (c :: t) (image ++ lowered)

/-! ## The lower case of a character -/

theorem toNat_toLower (c : Char) :
    c.toLower.toNat = if 65 ≤ c.toNat ∧ c.toNat ≤ 90 then c.toNat + 32 else c.toNat := by
  delta Char.toLower
  split
  case isTrue hupper =>
    have hval : (c.val + ('a'.val - 'A'.val)).toNat = (c.val.toNat + 32) % 2 ^ 32 := rfl
    have hlow : 65 ≤ c.toNat := hupper.1
    have hhigh : c.toNat ≤ 90 := hupper.2
    rw [if_pos ⟨hlow, hhigh⟩]
    simp only [Char.toNat, hval] at hhigh ⊢
    omega
  case isFalse hupper => exact (if_neg fun h => hupper ⟨h.1, h.2⟩).symm

/-- A capital letter moves on by 32, and every other character stays. -/
theorem toLower_cases (c : Char) :
    65 ≤ c.toNat ∧ c.toNat ≤ 90 ∧ c.toLower.toNat = c.toNat + 32 ∨ c.toLower = c := by
  have hlower := toNat_toLower c
  split at hlower
  case isTrue hupper => exact .inl ⟨hupper.1, hupper.2, hlower⟩
  case isFalse => exact .inr (Char.toNat_inj.mp hlower)

theorem isAscii_toLower_iff (c : Char) : IsAscii c.toLower ↔ IsAscii c := by
  rcases toLower_cases c with ⟨hlow, hhigh, hlower⟩ | hlower
  · rw [IsAscii, IsAscii, hlower]
    omega
  · rw [hlower]

/-- No other character becomes one that stands in front of the letters. -/
theorem toLower_eq_iff {d : Char} (hd : d.toNat < 65) (c : Char) : c.toLower = d ↔ c = d := by
  rcases toLower_cases c with ⟨hlow, hhigh, hlower⟩ | hlower
  · refine iff_of_false (fun h => ?_) fun h => ?_
    · rw [h] at hlower
      omega
    · rw [h] at hlow
      omega
  · rw [hlower]

/-- A row of the table has its lower cases beyond ASCII, or it is the Kelvin sign. -/
theorem caseRow_target {row : CaseRow} (h : row ∈ caseRows) :
    0x80 ≤ row.target ∨ row.first = 0x212A ∧ row.last = 0x212A ∧ row.target = 0x6B := by
  revert row
  decide +kernel

theorem caseRow_isValidChar {row : CaseRow} (h : row ∈ caseRows) :
    row.target + (row.last - row.first) < 0xD800 ∨
      0xDFFF < row.target ∧ row.target + (row.last - row.first) < 0x110000 := by
  revert row
  decide +kernel

/-- The table of lower cases is one way to choose them. -/
theorem lowersCharTo_lowerCase (c : Char) : LowersCharTo c (lowerCase c) := by
  rw [lowerCase]
  by_cases hc : IsAscii c
  · rw [if_pos hc]
    exact .ascii hc
  · rw [if_neg hc]
    by_cases hdotted : c.toNat = 0x130
    · obtain rfl : c = '\u0130' := Char.toNat_inj.mp hdotted
      exact .dotted
    · rw [if_neg hdotted]
      split
      case h_1 row hrow =>
        have hmem := List.mem_of_find?_eq_some hrow
        have hcovers := List.find?_some hrow
        simp only [CaseRow.covers, Bool.and_eq_true, decide_eq_true_eq] at hcovers
        rcases caseRow_target hmem with htarget | ⟨hfirst, hlast, htarget⟩
        · refine .beyond hc (List.cons_ne_nil _ _) ?_
          have hvalid : (row.lower c.toNat).isValidChar := by
            have hrange := caseRow_isValidChar hmem
            rw [CaseRow.lower, Nat.isValidChar]
            omega
          have hlower : (Char.ofNat (row.lower c.toNat)).toNat = row.lower c.toNat := by
            rw [Char.ofNat, dif_pos hvalid]
            rfl
          rw [List.forall_mem_singleton, IsAscii, hlower, CaseRow.lower]
          omega
        · have hkelvin : c.toNat = 0x212A := by omega
          obtain rfl : c = '\u212A' := Char.toNat_inj.mp hkelvin
          rw [CaseRow.lower, hfirst, htarget]
          exact .kelvin
      case h_2 => exact .beyond hc (List.cons_ne_nil _ _) (by simpa using hc)

theorem lowersTo_lower (t : Text) : LowersTo t t.lower := by
  induction t with
  | nil => exact .nil
  | cons c t ih => exact .cons (lowersCharTo_lowerCase c) ih

/-! ## Words that are found alike -/

/-- A word of ASCII characters without a k and with no i at its end. -/
def FoldsAlike (word : Text) : Prop :=
  (∀ c ∈ word, IsAscii c) ∧ 'k' ∉ word ∧ word.getLast? ≠ some 'i'

instance (word : Text) : Decidable (FoldsAlike word) :=
  have := List.decidableBAll IsAscii word
  inferInstanceAs (Decidable ((∀ c ∈ word, IsAscii c) ∧ _ ∧ _))

section Words

variable {d : Char} {word rest t lowered image : Text}

theorem FoldsAlike.tail (h : FoldsAlike (d :: word)) : FoldsAlike word := by
  obtain ⟨hascii, hkelvin, hlast⟩ := h
  refine ⟨(List.forall_mem_cons.mp hascii).2, fun hk => hkelvin (List.mem_cons_of_mem _ hk), ?_⟩
  intro hi
  apply hlast
  rw [List.getLast?_cons, hi]
  rfl

/-- Of the lower case of a character only the first may be an ASCII character. -/
theorem LowersCharTo.exists_cons {c : Char} (h : LowersCharTo c image) :
    ∃ first behind, image = first :: behind ∧ ∀ e ∈ behind, ¬IsAscii e := by
  cases h with
  | ascii hc => exact ⟨_, [], rfl, by simp⟩
  | kelvin => exact ⟨_, [], rfl, by simp⟩
  | dotted => exact ⟨_, ['\u0307'], rfl, List.forall_mem_singleton.mpr (by decide)⟩
  | beyond hc hne himage =>
      obtain ⟨first, behind, rfl⟩ := List.exists_cons_of_ne_nil hne
      exact ⟨first, behind, rfl, (List.forall_mem_cons.mp himage).2⟩

/-- A word that starts with an ASCII character does not start within other characters. -/
theorem cons_infix_append_iff (hd : IsAscii d) (hrest : ∀ e ∈ rest, ¬IsAscii e) :
    d :: word <:+: rest ++ t ↔ d :: word <:+: t := by
  induction rest with
  | nil => rfl
  | cons e rest ih =>
      rw [List.forall_mem_cons] at hrest
      rw [List.cons_append, List.infix_cons_iff, ih hrest.2, or_iff_right]
      intro hprefix
      obtain ⟨rfl, -⟩ := List.cons_prefix_cons.mp hprefix
      exact hrest.1 hd

/-- What starts a text in lower case starts the folded text. -/
theorem prefix_lowered_iff (h : LowersTo t lowered) (hword : FoldsAlike word) :
    word <+: lowered ↔ word <+: t.lowerAscii := by
  induction h generalizing word with
  | nil => rfl
  | @cons c image t lowered hc ht ih =>
      cases word with
      | nil => exact iff_of_true List.nil_prefix List.nil_prefix
      | cons d word =>
          have hascii : IsAscii d := hword.1 d List.mem_cons_self
          have hfolded : d :: word <+: Text.lowerAscii (c :: t) ↔
              d = c.toLower ∧ word <+: t.lowerAscii := List.cons_prefix_cons
          rw [hfolded]
          have hbeyond : ¬IsAscii c → ¬(d = c.toLower ∧ word <+: t.lowerAscii) := by
            rintro hc ⟨rfl, -⟩
            exact hc ((isAscii_toLower_iff c).mp hascii)
          cases hc with
          | ascii hc => rw [List.singleton_append, List.cons_prefix_cons, ih hword.tail]
          | kelvin =>
              refine iff_of_false ?_ (hbeyond (by decide))
              rw [List.singleton_append, List.cons_prefix_cons]
              rintro ⟨rfl, -⟩
              exact hword.2.1 List.mem_cons_self
          | dotted =>
              refine iff_of_false ?_ (hbeyond (by decide))
              rw [List.cons_append, List.cons_prefix_cons]
              rintro ⟨rfl, hrest⟩
              -- the i is the last of the word, or the combining dot belongs to the word
              cases word with
              | nil => exact hword.2.2 rfl
              | cons e word =>
                  obtain ⟨rfl, -⟩ := List.cons_prefix_cons.mp hrest
                  exact absurd (hword.1 '\u0307' (by simp)) (by decide)
          | beyond hc hne himage =>
              refine iff_of_false ?_ (hbeyond hc)
              obtain ⟨first, behind, rfl⟩ := List.exists_cons_of_ne_nil hne
              rw [List.cons_append, List.cons_prefix_cons]
              rintro ⟨rfl, -⟩
              exact himage d List.mem_cons_self hascii

/-- What occurs in a text in lower case occurs in the folded text. -/
theorem infix_lowered_iff (h : LowersTo t lowered) (hword : FoldsAlike word) :
    word <:+: lowered ↔ word <:+: t.lowerAscii := by
  cases word with
  | nil => exact iff_of_true List.nil_infix List.nil_infix
  | cons d word =>
      have hascii : IsAscii d := hword.1 d List.mem_cons_self
      induction h with
      | nil => rfl
      | @cons c image t lowered hc ht ih =>
          have hprefix := prefix_lowered_iff (.cons hc ht) hword
          obtain ⟨first, behind, rfl, hbehind⟩ := hc.exists_cons
          calc d :: word <:+: first :: behind ++ lowered
              ↔ d :: word <+: first :: behind ++ lowered ∨ d :: word <:+: behind ++ lowered :=
                List.infix_cons_iff
            _ ↔ d :: word <+: first :: behind ++ lowered ∨ d :: word <:+: lowered :=
                or_congr_right (cons_infix_append_iff hascii hbehind)
            _ ↔ d :: word <+: Text.lowerAscii (c :: t) ∨ d :: word <:+: t.lowerAscii :=
                or_congr hprefix ih
            _ ↔ d :: word <:+: Text.lowerAscii (c :: t) := List.infix_cons_iff.symm

end Words

end LicenseText
