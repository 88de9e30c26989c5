import LicenseText.Proofs.Text.Occurrence
import LicenseText.Proofs.Xml.Document
import LicenseText.Proofs.Xml.Piece

/-!
# The pieces of nodes

The first piece of a document that starts with a node is that node (`Node.first_write`).
Each kind of node ends where its own delimiter was written, since the delimiter does not
occur before. Instructions have no other form than that of such nodes.
-/

namespace LicenseText

namespace Xml

open Text

/-! ## Pieces -/

theorem splitAtEnd?_append {accepts : Text → Bool} {seen inside : Text} (rest : Text)
    (hend : accepts (inside.reverse ++ seen) = true)
    (hbefore : ∀ front back, inside = front ++ '>' :: back →
      accepts (front.reverse ++ seen) = false) :
    splitAtEnd? accepts seen (inside ++ '>' :: rest) =
      some (seen.reverse ++ inside, rest) := by
  induction inside generalizing seen with
  | nil =>
      have haccepts : accepts seen = true := hend
      simp [splitAtEnd?, haccepts]
  | cons c inside ih =>
      have hnext : ¬(decide (c = '>') && accepts seen) = true := by
        intro h
        obtain ⟨rfl, haccepts⟩ : c = '>' ∧ accepts seen = true := by simpa using h
        have hnot := hbefore [] inside rfl
        rw [List.reverse_nil, List.nil_append, haccepts] at hnot
        contradiction
      rw [List.cons_append, splitAtEnd?, if_neg hnext, ih]
      · simp
      · simpa using hend
      · intro front back hfront
        have hnot := hbefore (c :: front) back (congrArg (c :: ·) hfront)
        simpa using hnot

theorem splitAtTagEnd?_append (seen : Text) {inside : Text} (rest : Text)
    (hend : '>' ∉ inside) (hdouble : '"' ∉ inside) (hsingle : '\'' ∉ inside) :
    splitAtTagEnd? none seen (inside ++ '>' :: rest) =
      some (seen.reverse ++ inside, rest) := by
  induction inside generalizing seen with
  | nil => simp [splitAtTagEnd?]
  | cons c inside ih =>
      rw [List.mem_cons, not_or] at hend hdouble hsingle
      have hquote : (if c = '"' || c = '\'' then some c else none) = none := by
        simp [Ne.symm hdouble.1, Ne.symm hsingle.1]
      rw [List.cons_append, splitAtTagEnd?, if_neg (Ne.symm hend.1), hquote,
        ih (c :: seen) hend.2 hdouble.2 hsingle.2]
      simp

/-! ## What ends where -/

/-- A `>` does not stand in what holds none. -/
theorem exists_of_append_eq {front back inside tail : Text} (htail : '>' ∉ tail)
    (h : inside ++ tail = front ++ '>' :: back) :
    ∃ more, inside = front ++ '>' :: more := by
  rcases List.append_eq_append_iff.mp h with ⟨more, rfl, hmore⟩ | ⟨more, hinside, hmore⟩
  · exact absurd (by simp [hmore]) htail
  · cases more with
    | nil =>
        rw [List.nil_append] at hmore
        exact absurd (by simp [hmore.symm]) htail
    | cons c more =>
        obtain ⟨rfl, -⟩ := List.cons.inj hmore
        exact ⟨more, hinside⟩

theorem splitAtEnd?_comment {inside : Text} (h : ¬['-', '-', '>'] <:+: inside)
    (rest : Text) :
    splitAtEnd? closesComment [] (['-', '-'] ++ inside ++ ['-', '-'] ++ '>' :: rest) =
      some (['-', '-'] ++ inside ++ ['-', '-'], rest) := by
  apply splitAtEnd?_append
  · rw [List.append_nil, Piece.closesComment_reverse]
    exact ⟨['-', '-'] ++ inside, rfl, by simp⟩
  · intro front back hfront
    rw [List.append_nil]
    by_contra hcloses
    rw [Bool.not_eq_false, Piece.closesComment_reverse] at hcloses
    obtain ⟨dashed, rfl, hlength⟩ := hcloses
    obtain ⟨more, hmore⟩ := exists_of_append_eq (by decide) hfront
    match dashed, hlength with
    | a :: b :: text, _ =>
        obtain ⟨-, -, hinside⟩ : '-' = a ∧ '-' = b ∧
            inside = text ++ ['-', '-', '>'] ++ more := by simpa using hmore
        exact h ⟨text, more, hinside.symm⟩

theorem closesCharacterData_reverse {seen : Text} :
    closesCharacterData seen.reverse = true ↔ ∃ front, seen = front ++ [']', ']'] := by
  constructor
  · intro h
    rw [closesCharacterData.eq_def] at h
    split at h
    case h_1 more heq =>
      rw [List.reverse_eq_iff] at heq
      exact ⟨more.reverse, by simp [heq]⟩
    case h_2 => contradiction
  · rintro ⟨front, rfl⟩
    rw [List.reverse_append]
    rfl

theorem splitAtEnd?_characterData {inside : Text} (h : ¬[']', ']', '>'] <:+: inside)
    (rest : Text) :
    splitAtEnd? closesCharacterData []
        (characterDataStart ++ inside ++ [']', ']'] ++ '>' :: rest) =
      some (characterDataStart ++ inside ++ [']', ']'], rest) := by
  apply splitAtEnd?_append
  · rw [List.append_nil, closesCharacterData_reverse]
    exact ⟨characterDataStart ++ inside, rfl⟩
  · intro front back hfront
    rw [List.append_nil]
    by_contra hcloses
    rw [Bool.not_eq_false, closesCharacterData_reverse] at hcloses
    obtain ⟨front, rfl⟩ := hcloses
    obtain ⟨more, hmore⟩ := exists_of_append_eq (by decide) hfront
    rw [List.append_assoc] at hmore
    rcases List.append_eq_append_iff.mp hmore with
      ⟨text, rfl, hinside⟩ | ⟨text, hopen, hinside⟩
    · exact h ⟨text, more, by simp [hinside]⟩
    · cases text with
      | nil => exact h ⟨[], more, hinside⟩
      | cons c text =>
          obtain ⟨rfl, -⟩ := List.cons.inj hinside
          have hmem : ']' ∈ characterDataStart := by simp [hopen]
          exact absurd hmem (by decide)

theorem closesInstruction_reverse {seen : Text} :
    closesInstruction seen.reverse = true ↔ ∃ front, seen = front ++ ['?'] := by
  constructor
  · intro h
    rw [closesInstruction.eq_def] at h
    split at h
    case h_1 more heq =>
      rw [List.reverse_eq_iff] at heq
      exact ⟨more.reverse, by simp [heq]⟩
    case h_2 => contradiction
  · rintro ⟨front, rfl⟩
    rw [List.reverse_append]
    rfl

theorem splitAtEnd?_instruction {inside : Text} (h : ¬['?', '>'] <:+: inside)
    (hhead : inside.head? ≠ some '>') (rest : Text) :
    splitAtEnd? closesInstruction [] (['?'] ++ inside ++ ['?'] ++ '>' :: rest) =
      some (['?'] ++ inside ++ ['?'], rest) := by
  apply splitAtEnd?_append
  · rw [List.append_nil, closesInstruction_reverse]
    exact ⟨['?'] ++ inside, rfl⟩
  · intro front back hfront
    rw [List.append_nil]
    by_contra hcloses
    rw [Bool.not_eq_false, closesInstruction_reverse] at hcloses
    obtain ⟨front, rfl⟩ := hcloses
    obtain ⟨more, hmore⟩ := exists_of_append_eq (by decide) hfront
    cases front with
    | nil =>
        obtain rfl : inside = '>' :: more := by simpa using hmore
        exact hhead rfl
    | cons c text =>
        obtain ⟨-, hinside⟩ : '?' = c ∧ inside = text ++ ['?', '>'] ++ more := by
          simpa using hmore
        exact h ⟨text, more, hinside.symm⟩

/-! ## Pieces of nodes -/

namespace Piece

theorem delimited_of_eq_some {opening body inside rest : Text} {parts? : Option (Text × Text)}
    {judge : Text → Verdict} {fault : Fault} {kind : EventKind}
    (hparts : parts? = some (inside, rest)) (hjudge : judge inside = .ok kind) :
    delimited opening body parts? judge fault =
      ⟨opening ++ inside ++ ['>'], .ok kind, rest⟩ := by
  rw [hparts, delimited, hjudge]

theorem first_dash {inner : Text} (h : inner.head? = some '-') :
    first '<' ('!' :: inner) = delimited ['<', '!'] inner
      (splitAtEnd? closesComment [] inner) commentOf .unclosedComment := by
  obtain ⟨tail, rfl⟩ := List.head?_eq_some_iff.mp h
  rfl

theorem first_bracket {inner : Text} (h : inner.head? = some '[') :
    first '<' ('!' :: inner) = delimited ['<', '!'] inner
      (splitAtEnd? closesCharacterData [] inner) characterDataOf
      .unclosedCharacterData := by
  obtain ⟨tail, rfl⟩ := List.head?_eq_some_iff.mp h
  rfl

theorem first_question {body : Text} (h : body.head? = some '?') :
    first '<' body = delimited ['<'] body (splitAtEnd? closesInstruction [] body)
      instructionOf .unclosedInstruction := by
  obtain ⟨tail, rfl⟩ := List.head?_eq_some_iff.mp h
  rfl

/-- Markup that is neither a declaration nor an instruction is a tag. -/
theorem first_tag {body : Text} (hdeclaration : body.head? ≠ some '!')
    (hinstruction : body.head? ≠ some '?') :
    first '<' body = delimited ['<'] body (splitAtTagEnd? none [] body)
      (fun _ => .ok .markup) .unclosedTag := by
  rw [first, if_pos rfl, ofMarkup.eq_def]
  split
  · exact absurd rfl hdeclaration
  · exact absurd rfl hinstruction
  · rfl

/-- Text reaches up to the next `<`. -/
theorem first_text {c : Char} {tail rest : Text} (hc : '<' ≠ c) (htail : '<' ∉ tail)
    (hrest : ∀ d ∈ rest.head?, d = '<') :
    first c (tail ++ rest) = ⟨c :: tail, .ok (.text (c :: tail)), rest⟩ := by
  have hpos : ∀ d ∈ tail, decide (d ≠ '<') = true := by
    intro d hd
    rw [decide_eq_true_eq]
    rintro rfl
    exact htail hd
  have hstop : rest.takeWhile (· ≠ '<') = [] ∧ rest.dropWhile (· ≠ '<') = rest := by
    cases rest with
    | nil => exact ⟨rfl, rfl⟩
    | cons d rest =>
        obtain rfl := hrest d rfl
        exact ⟨rfl, rfl⟩
  rw [first, if_neg hc.symm, List.takeWhile_append_of_pos hpos,
    List.dropWhile_append_of_pos hpos, hstop.1, hstop.2, List.append_nil]

theorem commentOf_append (inside : Text) :
    commentOf (['-', '-'] ++ inside ++ ['-', '-']) = .ok (.comment inside) := by
  have hopen : "--".toList.isPrefixOf? (['-', '-'] ++ inside ++ ['-', '-']) =
      some (inside ++ ['-', '-']) := Text.isPrefixOf?_append "--".toList _
  rw [commentOf, hopen]
  simp

theorem characterDataOf_append (inside : Text) :
    characterDataOf (characterDataStart ++ inside ++ [']', ']']) =
      .ok (.characterData inside) := by
  have hopen : "[CDATA[".toList.isPrefixOf? (characterDataStart ++ inside ++ [']', ']']) =
      some (inside ++ [']', ']']) := by
    rw [List.append_assoc]
    exact Text.isPrefixOf?_append characterDataStart _
  rw [characterDataOf, hopen]
  simp

theorem instructionOf_append (inside : Text) :
    instructionOf (['?'] ++ inside ++ ['?']) = .ok .instruction := by
  rw [instructionOf, if_pos]
  simp

end Piece

namespace Node

def kind : Node → EventKind
  | comment inside => .comment inside
  | text raw => .text (Markup.escape raw)
  | characterData inside => .characterData inside
  | instruction _ => .instruction
  | tag _ => .markup

theorem write_text_eq_nil {raw : Text} (h : (text raw).write = []) : raw = [] := by
  cases raw with
  | nil => rfl
  | cons c raw =>
      have hc : Markup.escapeChar c ≠ [] := by
        rw [Markup.escapeChar]
        split
        · simp
        · split <;> simp
      rw [write, Markup.escape_cons, List.append_eq_nil_iff] at h
      exact absurd h.1 hc

/-- The first piece of a document that starts with a node is that node. -/
theorem first_write {node : Node} (hne : node.write ≠ []) (hfits : node.Fits) {rest : Text}
    (hrest : node.isText = true → ∀ c ∈ rest.head?, c = '<') :
    ∃ c body, node.write ++ rest = c :: body ∧
      Piece.first c body = ⟨node.write, .ok node.kind, rest⟩ := by
  cases node with
  | text raw =>
      obtain ⟨c, tail, htail⟩ := List.exists_cons_of_ne_nil hne
      have hlt := Markup.lt_not_mem_escape raw
      rw [write] at htail ⊢
      rw [kind, htail]
      rw [htail, List.mem_cons, not_or] at hlt
      exact ⟨c, tail ++ rest, rfl, Piece.first_text hlt.1 hlt.2 (hrest rfl)⟩
  | comment inside =>
      have hsplit := splitAtEnd?_comment hfits rest
      refine ⟨'<', '!' :: (['-', '-'] ++ inside ++ ['-', '-'] ++ '>' :: rest), ?_, ?_⟩
      · simp [write]
      · rw [Piece.first_dash rfl,
          Piece.delimited_of_eq_some hsplit (Piece.commentOf_append inside)]
        simp [write, kind]
  | characterData inside =>
      have hsplit := splitAtEnd?_characterData hfits rest
      refine ⟨'<', '!' :: (characterDataStart ++ inside ++ [']', ']'] ++ '>' :: rest), ?_, ?_⟩
      · simp [write]
      · rw [Piece.first_bracket rfl,
          Piece.delimited_of_eq_some hsplit (Piece.characterDataOf_append inside)]
        simp [write, kind]
  | instruction inside =>
      have hsplit := splitAtEnd?_instruction hfits.1 hfits.2 rest
      refine ⟨'<', ['?'] ++ inside ++ ['?'] ++ '>' :: rest, ?_, ?_⟩
      · simp [write]
      · rw [Piece.first_question rfl,
          Piece.delimited_of_eq_some hsplit (Piece.instructionOf_append inside)]
        simp [write, kind]
  | tag inside =>
      obtain ⟨hend, hdouble, hsingle, hdeclaration, hinstruction⟩ := hfits
      have hsplit := splitAtTagEnd?_append [] rest hend hdouble hsingle
      refine ⟨'<', inside ++ '>' :: rest, ?_, ?_⟩
      · simp [write]
      · rw [Piece.first_tag, Piece.delimited_of_eq_some hsplit rfl]
        · simp [write, kind]
        · cases inside with
          | nil => simp
          | cons c inside => exact hdeclaration
        · cases inside with
          | nil => simp
          | cons c inside => exact hinstruction

end Node

/-! ## Instructions -/

theorem exists_of_splitAtEnd?_instruction {tail seen rest : Text}
    (hparts : splitAtEnd? closesInstruction [] ('?' :: tail) = some (seen, rest))
    (hjudge : instructionOf seen = .ok .instruction) :
    ∃ inside, (Node.instruction inside).Fits ∧ seen = ['?'] ++ inside ++ ['?'] := by
  obtain ⟨happend, hend⟩ := splitAtEnd?_eq_some hparts
  obtain ⟨front, rfl⟩ := closesInstruction_reverse.mp hend
  have hnot : ∀ before behind, front ++ ['?'] = before ++ ['?'] ++ '>' :: behind → False := by
    intro before behind hfront
    have hseen : front ++ ['?'] = [].reverse ++ (before ++ ['?'] ++ '>' :: behind) := hfront
    have hrefused := not_accepts_of_splitAtEnd? hparts hseen
    rw [List.append_nil, closesInstruction_reverse.mpr ⟨before, rfl⟩] at hrefused
    contradiction
  cases front with
  | nil => simp [instructionOf] at hjudge
  | cons c inside =>
      obtain rfl : '?' = c := by simpa using (List.cons.inj happend).1
      refine ⟨inside, ⟨?_, ?_⟩, rfl⟩
      · rintro ⟨before, behind, rfl⟩
        exact hnot ('?' :: before) (behind ++ ['?']) (by simp)
      · intro hhead
        obtain ⟨behind, rfl⟩ := List.head?_eq_some_iff.mp hhead
        exact hnot [] (behind ++ ['?']) (by simp)

/-- What is read as an instruction is an instruction as it is written. -/
theorem Piece.taken_of_instruction {c : Char} {rest : Text}
    (h : (first c rest).verdict = .ok .instruction) :
    ∃ inside, (Node.instruction inside).Fits ∧
      (first c rest).taken = (Node.instruction inside).write := by
  rw [first] at h ⊢
  split at h
  case isFalse => simp at h
  case isTrue hc =>
    rw [if_pos hc]
    rw [ofMarkup.eq_def] at h ⊢
    split at h
    · split at h
      · exact absurd h (verdict_delimited_ne fun _ hjudge => by
          simpa using exists_of_commentOf hjudge)
      · exact absurd h (verdict_delimited_ne fun _ hjudge => by
          simpa using exists_of_characterDataOf hjudge)
      · exact absurd h (verdict_delimited_ne fun _ hjudge => by
          simpa using eq_of_documentTypeOf hjudge)
      · exact absurd h (verdict_delimited_ne fun _ hjudge => by
          simpa using eq_of_documentTypeOf hjudge)
      · contradiction
    · obtain ⟨seen, after, hparts, hjudge, htaken, -⟩ := taken_delimited h
      obtain ⟨inside, hfits, rfl⟩ := exists_of_splitAtEnd?_instruction hparts hjudge
      refine ⟨inside, hfits, ?_⟩
      rw [htaken]
      simp [Node.write]
    · exact absurd h (verdict_delimited_ne fun _ => by simp)

end Xml

end LicenseText
