import Mathlib.Data.List.Basic
import LicenseText.Xml.Event

/-!
# The pieces of an XML document

A piece that is no fault consists of the characters in front of what follows it, and a
comment stands between its delimiters.
-/

namespace LicenseText

namespace Xml

/-! ## Where a piece ends -/

theorem splitAtEnd?_eq_some {accepts : Text → Bool} {seen t inside rest : Text}
    (h : splitAtEnd? accepts seen t = some (inside, rest)) :
    seen.reverse ++ t = inside ++ '>' :: rest ∧ accepts inside.reverse = true := by
  induction t generalizing seen with
  | nil => simp [splitAtEnd?] at h
  | cons c t ih =>
      rw [splitAtEnd?] at h
      split at h
      case isTrue hend =>
        obtain ⟨rfl, haccepts⟩ : c = '>' ∧ accepts seen = true := by simpa using hend
        obtain ⟨rfl, rfl⟩ := Prod.mk.inj (Option.some.inj h)
        exact ⟨rfl, by rwa [List.reverse_reverse]⟩
      case isFalse =>
        have hrest := ih h
        rwa [List.reverse_cons, List.append_assoc, List.singleton_append] at hrest

/-- The text is split at the first end that is accepted. -/
theorem not_accepts_of_splitAtEnd? {accepts : Text → Bool} {seen t inside rest : Text}
    (h : splitAtEnd? accepts seen t = some (inside, rest)) {front back : Text}
    (hinside : inside = seen.reverse ++ (front ++ '>' :: back)) :
    accepts (front.reverse ++ seen) = false := by
  induction t generalizing seen front with
  | nil => simp [splitAtEnd?] at h
  | cons c t ih =>
      rw [splitAtEnd?] at h
      split at h
      case isTrue hend =>
        obtain ⟨rfl, -⟩ := Prod.mk.inj (Option.some.inj h)
        simp at hinside
      case isFalse hend =>
        have happend := (splitAtEnd?_eq_some h).1
        rw [hinside] at happend
        cases front with
        | nil =>
            obtain ⟨rfl, -⟩ : c = '>' ∧ _ := by simpa using happend
            simpa using hend
        | cons d front =>
            obtain ⟨rfl, -⟩ : c = d ∧ _ := by simpa using happend
            have hlater : inside = (c :: seen).reverse ++ (front ++ '>' :: back) := by
              simp [hinside]
            simpa using ih h hlater

theorem splitAtTagEnd?_eq_some {quote : Option Char} {seen t inside rest : Text}
    (h : splitAtTagEnd? quote seen t = some (inside, rest)) :
    seen.reverse ++ t = inside ++ '>' :: rest := by
  induction t generalizing quote seen with
  | nil => simp [splitAtTagEnd?] at h
  | cons c t ih =>
      cases quote with
      | some q =>
          have hrest := ih h
          rwa [List.reverse_cons, List.append_assoc, List.singleton_append] at hrest
      | none =>
          rw [splitAtTagEnd?] at h
          split at h
          case isTrue hend =>
            obtain ⟨rfl, rfl⟩ := Prod.mk.inj (Option.some.inj h)
            rw [hend]
          case isFalse =>
            have hrest := ih h
            rwa [List.reverse_cons, List.append_assoc, List.singleton_append] at hrest

theorem splitAtBalance?_eq_some {depth : Nat} {seen t inside rest : Text}
    (h : splitAtBalance? depth seen t = some (inside, rest)) :
    seen.reverse ++ t = inside ++ '>' :: rest := by
  induction t generalizing depth seen with
  | nil => simp [splitAtBalance?] at h
  | cons c t ih =>
      have hread : ∀ depth, splitAtBalance? depth (c :: seen) t = some (inside, rest) →
          seen.reverse ++ c :: t = inside ++ '>' :: rest := by
        intro depth h
        have hrest := ih h
        rwa [List.reverse_cons, List.append_assoc, List.singleton_append] at hrest
      rw [splitAtBalance?.eq_def] at h
      dsimp only at h
      split at h
      · exact hread _ h
      · split at h
        case isTrue hend =>
          split at h
          · obtain ⟨rfl, rfl⟩ := Prod.mk.inj (Option.some.inj h)
            rw [hend]
          · exact hread _ h
        case isFalse => exact hread _ h

/-! ## The characters of a piece -/

namespace Piece

variable {kind : EventKind}

theorem taken_delimited {opening body : Text} {parts? : Option (Text × Text)}
    {judge : Text → Verdict} {fault : Fault}
    (h : (delimited opening body parts? judge fault).verdict = .ok kind) :
    ∃ inside rest, parts? = some (inside, rest) ∧ judge inside = .ok kind ∧
      (delimited opening body parts? judge fault).taken = opening ++ inside ++ ['>'] ∧
      (delimited opening body parts? judge fault).rest = rest := by
  cases parts? with
  | none => simp [delimited] at h
  | some parts => exact ⟨parts.1, parts.2, rfl, h, rfl, rfl⟩

/-- A piece of markup reads up to a `>`, and what it is follows from what stands in
front of that `>`. -/
theorem append_rest_delimited {opening body : Text} {parts? : Option (Text × Text)}
    {judge : Text → Verdict} {fault : Fault}
    (hparts : ∀ inside rest, parts? = some (inside, rest) → body = inside ++ '>' :: rest)
    (h : (delimited opening body parts? judge fault).verdict = .ok kind) :
    (delimited opening body parts? judge fault).taken ++
      (delimited opening body parts? judge fault).rest = opening ++ body := by
  obtain ⟨inside, rest, heq, -, htaken, hrest⟩ := taken_delimited h
  rw [htaken, hrest, hparts inside rest heq]
  simp

theorem append_rest_ofMarkup {body : Text} (h : (ofMarkup body).verdict = .ok kind) :
    (ofMarkup body).taken ++ (ofMarkup body).rest = '<' :: body := by
  rw [ofMarkup.eq_def] at h ⊢
  split at h
  · split at h
    · exact append_rest_delimited
        (fun inside rest heq => (splitAtEnd?_eq_some heq).1) h
    · exact append_rest_delimited
        (fun inside rest heq => (splitAtEnd?_eq_some heq).1) h
    · exact append_rest_delimited
        (fun inside rest heq => splitAtBalance?_eq_some heq) h
    · exact append_rest_delimited
        (fun inside rest heq => splitAtBalance?_eq_some heq) h
    · contradiction
  · exact append_rest_delimited
      (fun inside rest heq => (splitAtEnd?_eq_some heq).1) h
  · exact append_rest_delimited
      (fun inside rest heq => splitAtTagEnd?_eq_some heq) h

/-- A piece that is no fault and what follows it make up the text. -/
theorem append_rest_first {c : Char} {rest : Text}
    (h : (first c rest).verdict = .ok kind) :
    (first c rest).taken ++ (first c rest).rest = c :: rest := by
  rw [first] at h ⊢
  split at h
  case isTrue hc =>
    rw [if_pos hc, hc]
    exact append_rest_ofMarkup h
  case isFalse hc =>
    rw [if_neg hc]
    exact congrArg (c :: ·) (List.takeWhile_append_dropWhile ..)

/-! ## The delimiters of a comment -/

theorem closesComment_reverse {seen : Text} :
    closesComment seen.reverse = true ↔
      ∃ front, seen = front ++ ['-', '-'] ∧ 2 ≤ front.length := by
  constructor
  · intro h
    rw [closesComment.eq_def] at h
    split at h
    case h_1 a b more heq =>
      refine ⟨more.reverse ++ [b, a], ?_, by simp⟩
      rw [List.reverse_eq_iff] at heq
      simp [heq]
    case h_2 => contradiction
  · rintro ⟨front, rfl, hlength⟩
    obtain ⟨a, b, more, hmore⟩ : ∃ a b more, front.reverse = a :: b :: more := by
      rw [← List.length_reverse] at hlength
      match front.reverse, hlength with
      | a :: b :: more, _ => exact ⟨a, b, more, rfl⟩
    rw [List.reverse_append, hmore]
    rfl

theorem eq_of_commentOf {seen inside : Text} (h : commentOf seen = .ok (.comment inside))
    (hclose : closesComment seen.reverse = true) :
    seen = ['-', '-'] ++ inside ++ ['-', '-'] := by
  obtain ⟨front, rfl, hlength⟩ := closesComment_reverse.mp hclose
  rw [commentOf] at h
  split at h
  case h_1 rest hopen =>
    have hseen := List.append_eq_of_isPrefixOf?_eq_some hopen
    obtain ⟨a, b, text, rfl⟩ : ∃ a b text, front = a :: b :: text := by
      match front, hlength with
      | a :: b :: text, _ => exact ⟨a, b, text, rfl⟩
    obtain ⟨rfl, rfl, rfl⟩ : '-' = a ∧ '-' = b ∧ rest = text ++ ['-', '-'] := by
      simpa using hseen
    obtain rfl : text = inside := by simpa using h
    rfl
  case h_2 => contradiction

/-! ## The kinds of pieces -/

theorem exists_of_commentOf {seen : Text} (h : commentOf seen = .ok kind) :
    ∃ inside, kind = .comment inside := by
  rw [commentOf] at h
  split at h
  · exact ⟨_, (Except.ok.inj h).symm⟩
  · contradiction

theorem exists_of_characterDataOf {seen : Text} (h : characterDataOf seen = .ok kind) :
    ∃ inside, kind = .characterData inside := by
  rw [characterDataOf] at h
  split at h
  · exact ⟨_, (Except.ok.inj h).symm⟩
  · contradiction

theorem eq_of_documentTypeOf {seen : Text} (h : documentTypeOf seen = .ok kind) :
    kind = .markup := by
  rw [documentTypeOf] at h
  split at h
  · split at h
    · contradiction
    · exact (Except.ok.inj h).symm
  · contradiction

theorem eq_of_instructionOf {seen : Text} (h : instructionOf seen = .ok kind) :
    kind = .instruction := by
  rw [instructionOf] at h
  split at h
  · exact (Except.ok.inj h).symm
  · contradiction

theorem verdict_delimited_ne {opening body : Text} {parts? : Option (Text × Text)}
    {judge : Text → Verdict} {fault : Fault} (hjudge : ∀ seen, judge seen ≠ .ok kind) :
    (delimited opening body parts? judge fault).verdict ≠ .ok kind := by
  intro h
  obtain ⟨inside, -, -, hinside, -⟩ := taken_delimited h
  exact hjudge inside hinside

/-- A comment stands between its delimiters. -/
theorem taken_of_comment {c : Char} {rest inside : Text}
    (h : (first c rest).verdict = .ok (.comment inside)) :
    (first c rest).taken = ['<', '!', '-', '-'] ++ inside ++ ['-', '-', '>'] := by
  rw [first] at h ⊢
  split at h
  case isFalse => simp at h
  case isTrue hc =>
    rw [if_pos hc]
    rw [ofMarkup.eq_def] at h ⊢
    split at h
    · split at h
      · obtain ⟨seen, after, heq, hjudge, htaken, -⟩ := taken_delimited h
        rw [htaken, eq_of_commentOf hjudge (splitAtEnd?_eq_some heq).2]
        simp
      · exact absurd h (verdict_delimited_ne fun _ hjudge => by
          simpa using exists_of_characterDataOf hjudge)
      · exact absurd h (verdict_delimited_ne fun _ hjudge => by
          simpa using eq_of_documentTypeOf hjudge)
      · exact absurd h (verdict_delimited_ne fun _ hjudge => by
          simpa using eq_of_documentTypeOf hjudge)
      · contradiction
    · exact absurd h (verdict_delimited_ne fun _ hjudge => by
        simpa using eq_of_instructionOf hjudge)
    · exact absurd h (verdict_delimited_ne fun _ => by simp)

end Piece

end Xml

end LicenseText
