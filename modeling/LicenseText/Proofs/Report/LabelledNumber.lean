import Mathlib.Data.List.TakeWhile
import LicenseText.Proofs.Text.Words
import LicenseText.Report.Terminal
import LicenseText.Text.Digits

/-!
# The numbers that a terminal report shows

How the counts are found in a terminal report when nothing but its text is known. The codes
that emphasise text are not visible, and a number belongs to the last word in front of it
that starts with a capital, unless a number has stood behind that word before. A part that
ends in a blank shows the same numbers wherever it stands.
-/

namespace LicenseText

/-! ## What is visible -/

namespace Text

/-- What is visible of a text, where `hidden` tells whether a code has begun. A code goes
from an escape character to the next letter m. -/
def visibleFrom (hidden : Bool) : Text → Text
  | [] => []
  | c :: rest =>
    if hidden then visibleFrom (c != 'm') rest
    else if c = '\x1b' then visibleFrom true rest
    else c :: visibleFrom false rest

def visible (t : Text) : Text := visibleFrom false t

/-- Whatever follows the text, `plain` is visible of it. -/
def VisibleAs (t plain : Text) : Prop := ∀ rest, visible (t ++ rest) = plain ++ visible rest

theorem VisibleAs.append {s t plain other : Text} (hs : s.VisibleAs plain)
    (ht : t.VisibleAs other) : VisibleAs (s ++ t) (plain ++ other) := by
  intro rest
  rw [List.append_assoc, hs, ht, List.append_assoc]

/-- A text without codes is visible as it is. -/
theorem visibleAs_self {t : Text} (h : '\x1b' ∉ t) : t.VisibleAs t := by
  intro rest
  induction t with
  | nil => rfl
  | cons c t ih =>
      obtain ⟨hc, ht⟩ := List.ne_and_not_mem_of_not_mem_cons h
      rw [List.cons_append, visible, visibleFrom, if_neg Bool.false_ne_true, if_neg hc.symm,
        ← visible, ih ht, List.cons_append]

theorem visibleFrom_code (code : Text) (hcode : 'm' ∉ code) (rest : Text) :
    visibleFrom true (code ++ 'm' :: rest) = visible rest := by
  induction code with
  | nil => rfl
  | cons c code ih =>
      obtain ⟨hc, hcode⟩ := List.ne_and_not_mem_of_not_mem_cons hcode
      have hhidden : (c != 'm') = true := bne_iff_ne.mpr hc.symm
      rw [List.cons_append, visibleFrom, if_pos rfl, hhidden, ih hcode]

/-- An emphasised text looks like the text itself. -/
theorem visibleAs_apply (emphasis : Emphasis) (color : Bool) {t : Text} (h : '\x1b' ∉ t) :
    (emphasis.apply color t).VisibleAs t := by
  intro rest
  cases color with
  | false => exact visibleAs_self h rest
  | true =>
      have hcode : 'm' ∉ '[' :: emphasis.code := by cases emphasis <;> decide
      have happly : emphasis.apply true t ++ rest =
          '\x1b' :: (('[' :: emphasis.code) ++ 'm' :: (t ++ ("\x1b[0m".toList ++ rest))) := by
        simp [Emphasis.apply]
      have hend : visible ("\x1b[0m".toList ++ rest) = visible rest :=
        visibleFrom_code "[0".toList (by decide) rest
      have hbegin : visible (emphasis.apply true t ++ rest) =
          visible (t ++ ("\x1b[0m".toList ++ rest)) := by
        rw [happly, visible, visibleFrom, if_neg Bool.false_ne_true, if_pos rfl,
          visibleFrom_code _ hcode]
      rw [hbegin, visibleAs_self h, hend]

end Text

/-! ## Words with numbers -/

section Numbers

variable {word : Text} {front between after : List Text}

theorem isDigit_of_mem_ofNat {n : Nat} {c : Char} (h : c ∈ Text.ofNat n) : c.isDigit = true :=
  Nat.isDigit_of_mem_toDigits (by decide) (Nat.le_refl 10) h

theorem isWord_ofNat (n : Nat) : (Text.ofNat n).IsWord where
  ne_nil := Nat.toDigits_ne_nil
  solid := by
    intro c hc
    obtain ⟨hlow, hhigh⟩ := Char.isDigit_iff_toNat.mp (isDigit_of_mem_ofNat hc)
    change 48 ≤ c.toNat at hlow
    change c.toNat ≤ 57 at hhigh
    simp [isBlank]
    omega

theorem escape_not_mem_ofNat (n : Nat) : '\x1b' ∉ Text.ofNat n :=
  fun h => absurd (isDigit_of_mem_ofNat h) (by decide)

theorem digitValue?_of_isDigit {c : Char} (h : c.isDigit = true) :
    digitValue? 10 c = some (c.toNat - '0'.toNat) := by
  obtain ⟨hlow, hhigh⟩ := Char.isDigit_iff_toNat.mp h
  have hdigit : ('0' ≤ c && c ≤ '9') = true := by
    simpa [Char.le_def, UInt32.le_iff_toNat_le] using ⟨hlow, hhigh⟩
  have hsmall : decide (c.toNat - '0'.toNat < 10) = true := by
    change c.toNat ≤ 57 at hhigh
    change decide (c.toNat - 48 < 10) = true
    exact decide_eq_true (by omega)
  rw [digitValue?, if_pos hdigit, Option.filter_some, if_pos hsmall]

theorem foldlM_digits {digits : Text} (h : ∀ c ∈ digits, c.isDigit = true) (n : Nat) :
    digits.foldlM (fun n c => (digitValue? 10 c).map (n * 10 + ·)) n =
      some (Nat.ofDigitChars 10 digits n) := by
  induction digits generalizing n with
  | nil => rfl
  | cons c digits ih =>
      obtain ⟨hc, hdigits⟩ := List.forall_mem_cons.mp h
      rw [List.foldlM_cons, digitValue?_of_isDigit hc, Option.map_some, Option.bind_eq_bind,
        Option.bind_some, ih hdigits, Nat.ofDigitChars_cons, Nat.mul_comm]

/-- The digits of a number stand for it. -/
theorem number?_ofNat (n : Nat) : number? 10 (Text.ofNat n) = some n := by
  have hne : (Text.ofNat n).isEmpty = false := List.isEmpty_eq_false_iff.mpr Nat.toDigits_ne_nil
  rw [number?, hne, if_neg Bool.false_ne_true, foldlM_digits fun c => isDigit_of_mem_ofNat,
    Text.ofNat, Nat.ofDigitChars_ten_toDigits]

def startsWithCapital (word : Text) : Bool := word.head?.any Char.isUpper

theorem isUpper_of_isDigit {c : Char} (h : c.isDigit = true) : c.isUpper = false := by
  obtain ⟨-, hhigh⟩ := Char.isDigit_iff_toNat.mp h
  refine Bool.eq_false_iff.mpr fun hupper => ?_
  have hlow : 'A'.toNat ≤ c.toNat := (of_decide_eq_true hupper).1
  exact absurd (Nat.le_trans hlow hhigh) (by decide)

theorem not_startsWithCapital_ofNat (n : Nat) : startsWithCapital (Text.ofNat n) = false := by
  obtain ⟨c, digits, hn⟩ := List.exists_cons_of_ne_nil (isWord_ofNat n).ne_nil
  have hdigit : c.isDigit = true := isDigit_of_mem_ofNat (hn ▸ List.mem_cons_self)
  rw [hn, startsWithCapital, List.head?_cons, Option.any_some, isUpper_of_isDigit hdigit]

/-- The numbers among words, each with the letters of the word to which it belongs. The last
word with a capital is given as long as no number has followed it. -/
def labelledFrom : Option Text → List Text → List (Text × Nat)
  | _, [] => []
  | label?, word :: rest =>
    if startsWithCapital word then labelledFrom (some (word.takeWhile Char.isAlpha)) rest
    else
      match number? 10 word with
      | none => labelledFrom label? rest
      | some n => label?.toList.map (·, n) ++ labelledFrom none rest

/-- The word to which a number behind the words would belong. -/
def labelAfter : Option Text → List Text → Option Text
  | label?, [] => label?
  | label?, word :: rest =>
    if startsWithCapital word then labelAfter (some (word.takeWhile Char.isAlpha)) rest
    else labelAfter (if (number? 10 word).isSome then none else label?) rest

/-- The numbers that are visible in a text, each with the word to which it belongs. -/
def labelledNumbers (t : Text) : List (Text × Nat) := labelledFrom none t.visible.words

theorem labelledFrom_append (label? : Option Text) (words rest : List Text) :
    labelledFrom label? (words ++ rest) =
      labelledFrom label? words ++ labelledFrom (labelAfter label? words) rest := by
  induction words generalizing label? with
  | nil => rfl
  | cons word words ih =>
      rw [List.cons_append, labelledFrom, labelledFrom, labelAfter]
      split
      · exact ih _
      · cases number? 10 word with
        | none => exact ih _
        | some n =>
            rw [List.append_assoc]
            exact congrArg (label?.toList.map (·, n) ++ ·) (ih none)

/-- Words that are no numbers show none. -/
theorem labelledFrom_front (h : ∀ word ∈ front, number? 10 word = none)
    (label? : Option Text) : labelledFrom label? front = [] := by
  induction front generalizing label? with
  | nil => rfl
  | cons word front ih =>
      obtain ⟨hword, hfront⟩ := List.forall_mem_cons.mp h
      rw [labelledFrom, hword, ih hfront, ih hfront, ite_self]

/-- Where no word with a capital is given, words without a capital show no number. -/
theorem labelledFrom_after (h : ∀ word ∈ after, startsWithCapital word = false) :
    labelledFrom none after = [] := by
  induction after with
  | nil => rfl
  | cons word after ih =>
      obtain ⟨hword, hafter⟩ := List.forall_mem_cons.mp h
      rw [labelledFrom, hword, if_neg Bool.false_ne_true]
      cases number? 10 word <;> exact ih hafter

/-- Between a word and its number there may be words that are neither. -/
theorem labelledFrom_between
    (h : ∀ word ∈ between, startsWithCapital word = false ∧ number? 10 word = none)
    (label : Text) (words : List Text) :
    labelledFrom (some label) (between ++ words) = labelledFrom (some label) words := by
  induction between with
  | nil => rfl
  | cons word between ih =>
      obtain ⟨⟨hcapital, hnumber⟩, hbetween⟩ := List.forall_mem_cons.mp h
      rw [List.cons_append, labelledFrom, hcapital, if_neg Bool.false_ne_true, hnumber]
      exact ih hbetween

/-- A number belongs to the word with a capital in front of it. -/
theorem labelledFrom_entry (front : List Text) (word : Text) (between after : List Text)
    (hfront : ∀ word ∈ front, number? 10 word = none)
    (hword : startsWithCapital word = true)
    (hbetween : ∀ word ∈ between, startsWithCapital word = false ∧ number? 10 word = none)
    (hafter : ∀ word ∈ after, startsWithCapital word = false) (n : Nat)
    (label? : Option Text) :
    labelledFrom label? (front ++ word :: (between ++ Text.ofNat n :: after)) =
      [(word.takeWhile Char.isAlpha, n)] := by
  have hnumber (label : Text) :
      labelledFrom (some label) (Text.ofNat n :: after) = [(label, n)] := by
    rw [labelledFrom, not_startsWithCapital_ofNat, if_neg Bool.false_ne_true, number?_ofNat,
      labelledFrom_after hafter]
    rfl
  rw [labelledFrom_append, labelledFrom_front hfront, List.nil_append, labelledFrom, hword,
    if_pos rfl, labelledFrom_between hbetween, hnumber]

example : labelledNumbers "Files: 12  in 3 Folders \x1b[32m2\x1b[0m\n".toList =
    [("Files".toList, 12), ("Folders".toList, 2)] := by decide

end Numbers

/-! ## Parts of a text -/

/-- A part of a text whose numbers are the entries, whatever stands in front of it and
behind it. -/
def Shows (t : Text) (entries : List (Text × Nat)) : Prop :=
  ∃ words : List Text,
    (∀ rest, (Text.visible (t ++ rest)).words = words ++ (Text.visible rest).words) ∧
      ∀ label?, labelledFrom label? words = entries

namespace Shows

variable {s t : Text} {entries others : List (Text × Nat)} {c : Char}

theorem append (hs : Shows s entries) (ht : Shows t others) :
    Shows (s ++ t) (entries ++ others) := by
  obtain ⟨words, hwords, hentries⟩ := hs
  obtain ⟨more, hmore, hothers⟩ := ht
  refine ⟨words ++ more, fun rest => ?_, fun label? => ?_⟩
  · rw [List.append_assoc, hwords, hmore, List.append_assoc]
  · rw [labelledFrom_append, hentries, hothers]

/-- The words in front of a blank are those of the text whatever follows it. -/
theorem of_visibleAs (plain : Text) (hplain : t.VisibleAs (plain ++ [c])) (hc : isBlank c = true)
    (hentries : ∀ label?, labelledFrom label? plain.words = entries) : Shows t entries := by
  refine ⟨plain.words, fun rest => ?_, hentries⟩
  rw [hplain, List.append_assoc, List.singleton_append, Text.words_append_cons hc]

theorem labelledNumbers_append (h : Shows t entries) (rest : Text) :
    ∃ more, labelledNumbers (t ++ rest) = entries ++ more := by
  obtain ⟨words, hwords, hentries⟩ := h
  rw [labelledNumbers, hwords, labelledFrom_append, hentries]
  exact ⟨_, rfl⟩

end Shows

end LicenseText
