import LicenseText.Proofs.Html.Moves

/-!
# The lines that the tokenizer counts

The tokenizer moves its line only when it reads a line break, and no further than by one
line, so it never stands behind the last line of the document. A line break is a line feed,
or a carriage return that no line feed follows.
-/

namespace LicenseText

namespace Html

/-- The number of carriage returns that no line feed follows. -/
def loneReturns : Text → Nat
  | [] => 0
  | c :: rest => loneReturns rest + if c = '\r' ∧ rest.head? ≠ some '\n' then 1 else 0

/-- The number of line breaks of a document: its line feeds, and its carriage returns that no
line feed follows. -/
def lineBreaks (content : Text) : Nat := Text.breaks content + loneReturns content

/-- The number of line breaks to come, where a line feed directly behind a carriage return
breaks no line. -/
def breaksAhead : Bool → Text → Nat
  | _, [] => 0
  | afterReturn, c :: rest =>
    breaksAhead (c == '\r') rest +
      if c = '\r' ∨ c = '\n' ∧ afterReturn = false then 1 else 0

/-- Ahead there are the line breaks of the text, but for a line feed that stands first and
belongs to the carriage return before it. -/
theorem breaksAhead_eq (afterReturn : Bool) (t : Text) :
    breaksAhead afterReturn t +
        (if afterReturn = true ∧ t.head? = some '\n' then 1 else 0) = lineBreaks t := by
  induction t generalizing afterReturn with
  | nil => simp [breaksAhead, lineBreaks, loneReturns]
  | cons c rest ih =>
      have hrest := ih (c == '\r')
      rw [lineBreaks] at hrest ⊢
      rw [breaksAhead, Text.breaks_cons, loneReturns]
      by_cases hreturn : c = '\r'
      · subst hreturn
        by_cases hhead : rest.head? = some '\n'
        · simp [hhead] at hrest ⊢
          omega
        · simp [hhead] at hrest ⊢
          omega
      · by_cases hfeed : c = '\n'
        · subst hfeed
          cases afterReturn with
          | false =>
              simp at hrest ⊢
              omega
          | true =>
              simp at hrest ⊢
              omega
        · simp [hreturn, hfeed] at hrest ⊢
          omega

/-- A byte order mark breaks no line. -/
theorem lineBreaks_dropMark (content : Text) :
    lineBreaks (dropMark content) = lineBreaks content := by
  rw [dropMark.eq_def]
  split
  · simp [lineBreaks, loneReturns, Text.breaks_cons]
  · rfl

namespace Tokenizer

variable {t u : Tokenizer}

theorem Moves.line (h : t.Moves u) : u.line = t.line := by
  induction h with
  | enter hmode => rfl
  | deliver htoken _ ih => exact ih
  | name _ ih => exact ih

variable (t) (c : Char)

theorem line_readEndTagOpen : (t.readEndTagOpen c).line = t.line := by
  rw [readEndTagOpen]
  repeat' split
  all_goals rfl

theorem line_readBogusComment (text : Text) : (t.readBogusComment text c).line = t.line := by
  rw [readBogusComment]
  split
  · rfl
  · rfl

theorem line_readDeclarationOpen (seen : Text) :
    (t.readDeclarationOpen seen c).line = t.line := by
  rw [readDeclarationOpen]
  repeat' split
  · rfl
  · rfl
  · rfl
  · exact line_readBogusComment _ c seen

theorem line_readComment (place : CommentPlace) (text : Text) :
    (t.readComment place text c).line = t.line := by
  rw [readComment.eq_def]
  repeat' split
  all_goals rfl

/-- Reading a character in a mode does not move the line. -/
theorem line_readPlain : (t.readPlain c).line = t.line := by
  rw [readPlain.eq_def]
  cases hmode : t.mode with
  | data => exact (moves_readData t c).line
  | raw kind => exact (moves_readRaw t c kind).line
  | reference within reference => rfl
  | tagOpen => exact (moves_readTagOpen t c).line
  | endTagOpen => exact line_readEndTagOpen t c
  | tag tag place => exact (moves_readTag t c tag place).line
  | rawLess kind => exact (moves_readRawLess t c kind).line
  | rawEndOpen kind => exact (moves_readRawEndOpen t c kind).line
  | rawEndName kind seen => exact (moves_readRawEndName t c kind seen).line
  | escapeStart dashes => exact (moves_readEscapeStart t c dashes).line
  | escapedDash kind several => exact (moves_readEscapedDash t c kind several).line
  | doubleEscapeStart seen => exact (moves_readDoubleEscapeStart t c seen).line
  | doubleEscapeEnd seen => exact (moves_readDoubleEscapeEnd t c seen).line
  | declarationOpen seen => exact line_readDeclarationOpen t c seen
  | comment place text => exact line_readComment t c place text
  | bogusComment text => exact line_readBogusComment t c text
  | documentType => exact (moves_readDocumentType t c (by rw [hmode]; rfl)).line

theorem line_letters (chunk : Text) : (t.letters chunk).line = t.line := by
  rw [letters]
  induction chunk generalizing t with
  | nil => rfl
  | cons c chunk ih => exact ih _

theorem line_count_le : (t.count c).line ≤ t.line + if c = '\n' then 1 else 0 := by
  rw [count.eq_def]
  split
  · exact Nat.le_add_right _ _
  · split
    · exact Nat.le_refl _
    · exact Nat.le_refl _

/-- A character moves the line only if it is a line feed. -/
theorem line_read_le : (t.read c).line ≤ t.line + if c = '\n' then 1 else 0 := by
  rw [read.eq_def]
  split
  case h_1 within reference _ =>
    split
    · exact Nat.le_add_right _ _
    case h_2 text _ =>
      have hletters : ((t.letters text).enter (around within)).line = t.line :=
        line_letters t text
      rw [hletters]
      exact Nat.le_add_right _ _
    case h_3 text _ =>
      rw [line_readPlain]
      have hcount := line_count_le ((t.letters text).enter (around within)) c
      have hletters : ((t.letters text).enter (around within)).line = t.line :=
        line_letters t text
      rwa [hletters] at hcount
  case h_2 =>
    rw [line_readPlain]
    exact line_count_le t c

/-- What the line of a tokenizer and the line breaks ahead of it come to does not grow. -/
theorem line_step (rest : Text) :
    (t.step c).line + breaksAhead (t.step c).afterReturn rest ≤
      t.line + breaksAhead t.afterReturn (c :: rest) := by
  rw [breaksAhead, step]
  split
  case isTrue hreturn =>
    have hread := line_read_le t '\n'
    simp [hreturn] at hread ⊢
    omega
  case isFalse hreturn =>
    split
    case isTrue hfeed => simp [hfeed]
    case isFalse hfeed =>
      have hread := line_read_le t c
      by_cases hc : c = '\n'
      · simp [hc] at hfeed hread ⊢
        simp [hfeed]
        omega
      · have hplain : (c == '\r') = false := beq_false_of_ne hreturn
        simp [hc, hreturn, hplain] at hread ⊢
        omega

theorem line_foldl (content : Text) :
    (content.foldl step t).line ≤ t.line + breaksAhead t.afterReturn content := by
  induction content generalizing t with
  | nil => exact Nat.le_refl _
  | cons c rest ih => exact Nat.le_trans (ih (t.step c)) (line_step t c rest)

theorem line_close : t.close.line = t.line := by
  rw [close.eq_def]
  split
  case h_8 => exact line_letters t _
  all_goals rfl

end Tokenizer

/-- At the end of a document the tokenizer stands on one of its lines. -/
theorem line_close_foldl (content : Text) :
    ((dropMark content).foldl Tokenizer.step .start).close.line ≤ 1 + lineBreaks content := by
  have hread := Tokenizer.line_foldl .start (dropMark content)
  have hahead := breaksAhead_eq false (dropMark content)
  rw [lineBreaks_dropMark] at hahead
  rw [Tokenizer.line_close, ← hahead]
  exact hread

end Html

end LicenseText
