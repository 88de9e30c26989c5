import Mathlib.Algebra.GroupWithZero.Nat
import Mathlib.Data.List.Forall2
import LicenseText.Proofs.License.Relevance
import LicenseText.Proofs.Text.Bytes
import LicenseText.Proofs.Text.LetterCase

/-!
# The division of literals

A literal is relevant when it mentions one of four words, written with small letters or
capitals. Every literal goes to one of the two texts of a division, behind those that were
there, so the texts have all characters of the literals and a line feed for each of them,
and dividing goes on where other literals have been divided.
-/

namespace LicenseText

/-! ## What a literal mentions -/

/-- Whether a character is one of the letters from A to Z. -/
abbrev IsCapital (c : Char) : Prop := 65 ≤ c.toNat ∧ c.toNat ≤ 90

/-- The character is written for the other one: it is the same, or its capital. -/
def StandsFor (c letter : Char) : Prop :=
  c = letter ∨ IsCapital c ∧ letter.toNat = c.toNat + 32

/-- A part of the text spells the word, whose letters may be capitals. -/
def Mentions (text word : Text) : Prop :=
  ∃ part, part <:+: text ∧ List.Forall₂ StandsFor part word

/-- The text mentions one of the words by which licenses and notices are told. -/
def MentionsLicense (text : Text) : Prop :=
  Mentions text "licen".toList ∨ Mentions text "copyright".toList ∨
    Mentions text "(c)".toList ∨ Mentions text "public domain".toList

section Mentions

variable {c letter : Char} {part word text : Text}

theorem toNat_toLower_of_isCapital (h : IsCapital c) : c.toLower.toNat = c.toNat + 32 := by
  rcases toLower_cases c with ⟨-, -, hlower⟩ | hlower
  · exact hlower
  · have hfalse : ∀ n, 65 ≤ n → n ≤ 90 → (Char.ofNat n).toLower ≠ Char.ofNat n := by decide
    have hsame := hfalse c.toNat h.1 h.2
    rw [Char.ofNat_toNat] at hsame
    contradiction

/-- A character is written for a letter that is no capital exactly when that is its lower
case. -/
theorem standsFor_iff (hletter : ¬IsCapital letter) : StandsFor c letter ↔ c.toLower = letter := by
  constructor
  · rintro (rfl | ⟨hcapital, heq⟩)
    · rcases toLower_cases c with ⟨hlow, hhigh, -⟩ | hlower
      · exact absurd ⟨hlow, hhigh⟩ hletter
      · exact hlower
    · rw [← Char.toNat_inj, toNat_toLower_of_isCapital hcapital, heq]
  · rintro rfl
    rcases toLower_cases c with ⟨hlow, hhigh, hlower⟩ | hlower
    · exact .inr ⟨⟨hlow, hhigh⟩, hlower⟩
    · exact .inl hlower.symm

theorem forall₂_standsFor_iff (hword : ∀ letter ∈ word, ¬IsCapital letter) :
    List.Forall₂ StandsFor part word ↔ word = Text.lowerAscii part := by
  induction part generalizing word with
  | nil => exact List.forall₂_nil_left_iff
  | cons c part ih =>
      have hcons : Text.lowerAscii (c :: part) = c.toLower :: Text.lowerAscii part := rfl
      cases word with
      | nil => exact iff_of_false (fun h => nomatch h) (List.cons_ne_nil _ _).symm
      | cons letter word =>
          obtain ⟨hletter, hword⟩ := List.forall_mem_cons.mp hword
          rw [List.forall₂_cons, standsFor_iff hletter, ih hword, hcons, List.cons.injEq,
            eq_comm (a := letter)]

theorem mentions_iff (hword : ∀ letter ∈ word, ¬IsCapital letter) (text : Text) :
    Mentions text word ↔ word <:+: text.lowerAscii := by
  rw [Text.lowerAscii, List.infix_map_iff]
  exact exists_congr fun part => and_congr_right fun _ => forall₂_standsFor_iff hword

/-- A literal is relevant exactly when it mentions one of the words. -/
theorem isRelevant_iff_mentionsLicense (text : Text) :
    isRelevant text = true ↔ MentionsLicense text := by
  have hall : (triggers.all fun trigger => trigger.all fun letter => !decide (IsCapital letter)) =
      true := by decide
  have hsmall : ∀ trigger ∈ triggers, ∀ letter ∈ trigger, ¬IsCapital letter := by
    simpa only [List.all_eq_true, Bool.not_eq_true', decide_eq_false_iff_not] using hall
  calc isRelevant text = true
      ↔ ∃ trigger ∈ triggers, trigger <:+: text.lowerAscii := isRelevant_iff text
    _ ↔ ∃ trigger ∈ triggers, Mentions text trigger :=
        exists_congr fun trigger => and_congr_right fun htrigger =>
          (mentions_iff (hsmall trigger htrigger) text).symm
    _ ↔ MentionsLicense text := by simp [triggers, MentionsLicense]

instance : DecidablePred MentionsLicense :=
  fun text => decidable_of_iff _ (isRelevant_iff_mentionsLicense text)

end Mentions

/-! ## What becomes of the literals -/

theorem filter_isRelevant (literals : List Text) :
    literals.filter isRelevant = literals.filter (MentionsLicense ·) :=
  List.filter_congr fun literal _ => by
    rw [Bool.eq_iff_iff, decide_eq_true_iff, isRelevant_iff_mentionsLicense]

theorem filter_not_isRelevant (literals : List Text) :
    (literals.filter fun literal => !isRelevant literal) =
      literals.filter (¬MentionsLicense ·) :=
  List.filter_congr fun literal _ => by
    rw [Bool.eq_iff_iff, decide_eq_true_iff, ← isRelevant_iff_mentionsLicense]
    simp

theorem divide_cons (literal : Text) (rest : List Text) :
    divide (literal :: rest) =
      if isRelevant literal then
        ⟨literal ++ ['\n'] ++ (divide rest).relevant, (divide rest).other⟩
      else ⟨(divide rest).relevant, literal ++ ['\n'] ++ (divide rest).other⟩ := by
  cases h : isRelevant literal <;> simp [divide, Division.blob, h]

/-- A size that adds up along a text, and is one for a line feed, is that of the literals
and one more for each of them. -/
theorem size_divide {size : Text → Nat} (happend : ∀ s t, size (s ++ t) = size s + size t)
    (hnewline : size ['\n'] = 1) (literals : List Text) :
    size (divide literals).relevant + size (divide literals).other =
      (literals.map size).sum + literals.length := by
  induction literals with
  | nil =>
      have hnil : size [] = size [] + size [] := happend [] []
      show size [] + size [] = 0
      omega
  | cons literal rest ih =>
      rw [divide_cons, List.map_cons, List.sum_cons, List.length_cons]
      split
      · simp only [happend, hnewline]
        omega
      · simp only [happend, hnewline]
        omega

theorem divide_append (xs ys : List Text) :
    divide (xs ++ ys) =
      ⟨(divide xs).relevant ++ (divide ys).relevant, (divide xs).other ++ (divide ys).other⟩ := by
  simp only [divide, Division.blob, List.filter_append, List.flatMap_append]

/-- The relevant text is made of the literals that mention a license, the other text of the
others, each in their order and with a line feed behind it. There is relevant text exactly
when one of the literals is relevant, the two texts have the size of the literals and of a
line feed for each, in characters as well as in bytes, and further literals go behind those
that were divided before. A literal of several lines is relevant exactly when one of them
is. -/
theorem divide_partitions (literals further lines : List Text) :
    (divide literals).relevant =
        ((literals.filter (MentionsLicense ·)).map (· ++ ['\n'])).flatten ∧
      (divide literals).other =
        ((literals.filter (¬MentionsLicense ·)).map (· ++ ['\n'])).flatten ∧
      ((divide literals).hasRelevant = true ↔ ∃ literal ∈ literals, MentionsLicense literal) ∧
      (divide literals).relevant.length + (divide literals).other.length =
        (literals.map List.length).sum + literals.length ∧
      Text.byteSize (divide literals).relevant + Text.byteSize (divide literals).other =
        (literals.map Text.byteSize).sum + literals.length ∧
      divide (literals ++ further) =
        ⟨(divide literals).relevant ++ (divide further).relevant,
          (divide literals).other ++ (divide further).other⟩ ∧
      (isRelevant (Text.joinLines lines) = true ↔ ∃ line ∈ lines, isRelevant line = true) ∧
      ∀ literal, isRelevant literal = true ↔ MentionsLicense literal := by
  refine ⟨?_, ?_, ?_, size_divide (fun _ _ => List.length_append) rfl literals,
    size_divide Text.byteSize_append (by decide) literals, divide_append literals further,
    isRelevant_joinLines lines, isRelevant_iff_mentionsLicense⟩
  · rw [divide, filter_isRelevant]
    rfl
  · rw [divide, filter_not_isRelevant]
    rfl
  · rw [hasRelevant_divide]
    simp only [isRelevant_iff_mentionsLicense]

end LicenseText
