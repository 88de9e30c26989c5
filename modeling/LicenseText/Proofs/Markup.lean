import Mathlib.Data.List.TakeWhile
import LicenseText.Markup
import LicenseText.Proofs.Item.Spans
import LicenseText.Proofs.Text.Breaks
import LicenseText.Proofs.Text.Trim

/-!
# Nodes of a markup document

What becomes of a comment node and of a text node, in terms of the text in front of them:
a comment node starts on the line that the text in front of it reaches, and spans as many
lines as it has line feeds beyond the first; a text node is found on the line of its first
character that is not a blank. `escape` is how text is written between markup.
-/

namespace LicenseText

namespace Markup

/-- A comment node ends as many lines behind its start as its text has line feeds. -/
theorem comment_eq (raw : Text) (line : Nat) :
    comment raw line =
      .written ((raw.splitOn '\n').map Text.trim) line (line + Text.breaks raw) := by
  rw [comment, List.length_map, Text.length_splitOn]
  rfl

theorem comment_eq_iff {raw other : Text} {line otherLine : Nat} :
    comment raw line = comment other otherLine ↔
      (raw.splitOn '\n').map Text.trim = (other.splitOn '\n').map Text.trim ∧
        line = otherLine := by
  constructor
  · intro h
    exact ⟨congrArg Comment.body h, congrArg Comment.startLine h⟩
  · rintro ⟨hbody, rfl⟩
    rw [comment, comment, hbody]

/-- The trimmed lines of a text are one empty line exactly when the text is one line of
blanks. -/
theorem map_trim_splitOn_eq_iff {t : Text} :
    (t.splitOn '\n').map Text.trim = [[]] ↔ t.IsBlank ∧ '\n' ∉ t := by
  have hempty := Text.isEmpty_trim t
  constructor
  · intro h
    have hlength := congrArg List.length h
    rw [List.length_map, Text.length_splitOn] at hlength
    have hbreak : '\n' ∉ t := List.count_eq_zero.mp (Nat.succ.inj hlength)
    rw [List.splitOn_eq_singleton hbreak] at h
    rw [(List.cons.inj h).1] at hempty
    exact ⟨List.all_eq_true.mp hempty.symm, hbreak⟩
  · rintro ⟨hblank, hbreak⟩
    rw [hblank.all_eq_true, List.isEmpty_iff] at hempty
    rw [List.splitOn_eq_singleton hbreak, List.map_singleton, hempty]

@[simp] theorem startLine_comment (raw : Text) (line : Nat) :
    (comment raw line).startLine = line := rfl

@[simp] theorem endLine_comment (raw : Text) (line : Nat) :
    (comment raw line).endLine = line + Text.breaks raw := by
  rw [comment_eq]
  rfl

theorem fillsSpan_comment (raw : Text) (line : Nat) : (comment raw line).FillsSpan := by
  have hlength : (comment raw line).body.length = Text.breaks raw + 1 := by
    rw [comment_eq, Comment.written, List.length_map, Text.length_splitOn]
  rw [Comment.FillsSpan, hlength, startLine_comment, endLine_comment, Nat.add_sub_cancel_left]

/-! ## Nodes behind a text -/

/-- The comment of a comment node that stands behind `before`. -/
def commentBehind (before raw : Text) : Comment :=
  .written ((raw.splitOn '\n').map Text.trim) (1 + Text.breaks before)
    (1 + Text.breaks before + Text.breaks raw)

/-- The string literal of a text node that stands behind `before`, unless it is blank. -/
def literalBehind? (before raw : Text) : Option StringLiteral :=
  if raw.all isBlank then none
  else some ⟨raw.trim, 1 + Text.breaks (before ++ raw.takeWhile isBlank)⟩

theorem comment_eq_commentBehind (before raw : Text) :
    comment raw (1 + Text.breaks before) = commentBehind before raw :=
  comment_eq raw _

theorem text?_eq_literalBehind? (before raw : Text) :
    text? raw (1 + Text.breaks before) = literalBehind? before raw := by
  rw [text?, literalBehind?, Text.breaks_append, ← Nat.add_assoc, Text.isEmpty_trim]

theorem line_of_text? {raw : Text} {line : Nat} {s : StringLiteral}
    (h : text? raw line = some s) : s.line = line + Text.breaks (raw.takeWhile isBlank) := by
  rw [text?] at h
  split at h
  · contradiction
  · rw [← Option.some.inj h]

/-- A text node is found on the line of its first character that is no blank. -/
theorem exists_ink_of_text? {raw : Text} {line : Nat} {s : StringLiteral}
    (h : text? raw line = some s) :
    ∃ blanks c ink, raw = blanks ++ c :: ink ∧ Text.IsBlank blanks ∧ isBlank c = false ∧
      s.text = raw.trim ∧ s.line = line + Text.breaks blanks := by
  have hline := line_of_text? h
  rw [text?, Text.isEmpty_trim] at h
  split at h
  · contradiction
  case isFalse hink =>
    have hne : raw.dropWhile isBlank ≠ [] := by
      rw [ne_eq, List.dropWhile_eq_nil_iff, ← List.all_eq_true]
      exact hink
    obtain ⟨c, ink, hrest⟩ := List.exists_cons_of_ne_nil hne
    refine ⟨raw.takeWhile isBlank, c, ink, ?_, ?_, ?_, ?_, hline⟩
    · rw [← hrest, List.takeWhile_append_dropWhile]
    · exact List.all_eq_true.mp List.all_takeWhile
    · have hhead := List.head_dropWhile_not isBlank hne
      simpa only [hrest, List.head_cons] using hhead
    · rw [← Option.some.inj h]

/-- A text node is found on one of its lines. -/
theorem line_mem_of_text? {raw : Text} {line : Nat} {s : StringLiteral}
    (h : text? raw line = some s) : line ≤ s.line ∧ s.line ≤ line + Text.breaks raw := by
  have hlead := Text.breaks_le_of_sublist (List.takeWhile_sublist isBlank (l := raw))
  rw [line_of_text? h]
  omega

/-! ## References to line feeds -/

/-- No reference of a text stands for a line feed. What a reference stands for is found
by `value` from what follows its ampersand. -/
def NoBreakReference (value : Text → Text) : Text → Prop
  | [] => True
  | c :: rest => (c = '&' → '\n' ∉ value rest) ∧ NoBreakReference value rest

instance decidableNoBreakReference (value : Text → Text) :
    (t : Text) → Decidable (NoBreakReference value t)
  | [] => inferInstanceAs (Decidable True)
  | c :: rest =>
    have := decidableNoBreakReference value rest
    inferInstanceAs
      (Decidable ((c = '&' → '\n' ∉ value rest) ∧ NoBreakReference value rest))

theorem NoBreakReference.of_append {value : Text → Text} {s t : Text}
    (h : NoBreakReference value (s ++ t)) : NoBreakReference value t := by
  induction s with
  | nil => exact h
  | cons c s ih => exact ih h.2

/-! ## Escaped text -/

/-- A character as it is written in text: the two that open markup and references are
written as references. -/
def escapeChar (c : Char) : Text :=
  if c = '<' then "&lt;".toList else if c = '&' then "&amp;".toList else [c]

def escape (t : Text) : Text := t.flatMap escapeChar

@[simp] theorem escape_nil : escape [] = [] := rfl

theorem escape_cons (c : Char) (t : Text) : escape (c :: t) = escapeChar c ++ escape t :=
  List.flatMap_cons

theorem escape_eq_self {t : Text} (hlt : '<' ∉ t) (hamp : '&' ∉ t) : escape t = t := by
  induction t with
  | nil => rfl
  | cons c t ih =>
      rw [List.mem_cons, not_or] at hlt hamp
      rw [escape_cons, escapeChar, if_neg (Ne.symm hlt.1), if_neg (Ne.symm hamp.1),
        ih hlt.2 hamp.2, List.singleton_append]

theorem lt_not_mem_escape (t : Text) : '<' ∉ escape t := by
  induction t with
  | nil => simp
  | cons c t ih =>
      have hc : '<' ∉ escapeChar c := by
        rw [escapeChar]
        by_cases hlt : c = '<'
        · simp [hlt]
        · by_cases hamp : c = '&'
          · simp [hamp]
          · simp [hlt, hamp, Ne.symm hlt]
      rw [escape_cons, List.mem_append, not_or]
      exact ⟨hc, ih⟩

theorem breaks_escape (t : Text) : Text.breaks (escape t) = Text.breaks t := by
  induction t with
  | nil => rfl
  | cons c t ih =>
      have hc : Text.breaks (escapeChar c) = if c = '\n' then 1 else 0 := by
        rw [escapeChar]
        by_cases hlt : c = '<'
        · subst hlt
          decide
        · by_cases hamp : c = '&'
          · subst hamp
            decide
          · rw [if_neg hlt, if_neg hamp, Text.breaks_cons, Text.breaks_nil, Nat.zero_add]
      rw [escape_cons, Text.breaks_append, hc, ih, Text.breaks_cons, Nat.add_comm]

end Markup

end LicenseText
