import Mathlib.Data.List.Basic
import LicenseText.Proofs.Html.LineCount

/-!
# The lines of comment tokens

A comment token carries the line of its end, and its text has no more line feeds than
the tokenizer has counted since the comment token before it (`CommentsPlaced`). This is
an invariant of the tokenizer: the line feeds of the comment that is being read are
counted already (`Ordered`), and no other mode holds such text.
-/

namespace LicenseText

namespace Html

/-! ## Tokens -/

/-- The line of the newest comment among tokens that stand newest first. -/
def lastCommentLine : List LocatedToken → Nat
  | [] => 1
  | ⟨.comment _, line⟩ :: _ => line
  | _ :: earlier => lastCommentLine earlier

/-- Among tokens that stand newest first, each comment has room for its line feeds behind
the comment before it. -/
def CommentsPlaced : List LocatedToken → Prop
  | [] => True
  | ⟨.comment raw, line⟩ :: earlier =>
    lastCommentLine earlier + Text.breaks raw ≤ line ∧ CommentsPlaced earlier
  | _ :: earlier => CommentsPlaced earlier

theorem lastCommentLine_cons {token : Token} (h : token.isComment = false) (line : Nat)
    (earlier : List LocatedToken) :
    lastCommentLine (⟨token, line⟩ :: earlier) = lastCommentLine earlier := by
  cases token <;> first | rfl | contradiction

theorem commentsPlaced_cons {token : Token} (h : token.isComment = false) (line : Nat)
    (earlier : List LocatedToken) :
    CommentsPlaced (⟨token, line⟩ :: earlier) ↔ CommentsPlaced earlier := by
  cases token <;> first | exact Iff.rfl | contradiction

/-! ## The tokenizer -/

namespace Tokenizer

/-- Behind the newest comment, `pending` line feeds and maybe more have been counted. -/
structure Settled (pending : Nat) (t : Tokenizer) : Prop where
  placed : CommentsPlaced t.tokens
  room : lastCommentLine t.tokens + pending ≤ t.line

/-- The line feeds of the comment that is being read have been counted. -/
def Ordered (t : Tokenizer) : Prop := t.Settled t.mode.pending

namespace Settled

variable {t : Tokenizer} {m n : Nat}

theorem weaken (h : t.Settled n) (hm : m ≤ n) : t.Settled m :=
  ⟨h.placed, Nat.le_trans (Nat.add_le_add_left hm _) h.room⟩

/-- Only the tokens and the line matter. -/
theorem congr {u : Tokenizer} (h : t.Settled n) (htokens : u.tokens = t.tokens)
    (hline : u.line = t.line) : u.Settled n := by
  refine ⟨?_, ?_⟩
  · rw [htokens]
    exact h.placed
  · rw [htokens, hline]
    exact h.room

theorem deliver (h : t.Settled n) {token : Token} (htoken : token.isComment = false) :
    (t.deliver token).Settled n where
  placed := (commentsPlaced_cons htoken _ _).mpr h.placed
  room := by
    rw [Tokenizer.deliver, lastCommentLine_cons htoken]
    exact h.room

theorem text (h : t.Settled n) (chunk : Text) : (t.text chunk).Settled n :=
  h.deliver rfl

theorem enter (h : t.Settled n) {mode : Mode} (hmode : mode.pending ≤ n) :
    (t.enter mode).Ordered :=
  (h.weaken hmode).congr rfl rfl

theorem comment {reversed : Text} (h : t.Settled n) (hn : Text.breaks reversed ≤ n) :
    (t.comment reversed).Ordered := by
  have hroom := (h.weaken hn).room
  refine ⟨⟨?_, h.placed⟩, ?_⟩
  · rwa [Text.breaks_reverse]
  · exact Nat.le_refl _

/-- Outside comments every character keeps them in order. -/
theorem of_moves {u : Tokenizer} (h : t.Settled n) (hmoves : t.Moves u) : u.Ordered := by
  induction hmoves with
  | enter hmode => exact h.enter (hmode ▸ Nat.zero_le n)
  | deliver htoken _ ih => exact ih (h.deliver htoken)
  | name _ ih => exact ih (h.congr rfl rfl)

end Settled

/-! ## The modes that hold a comment -/

section Comments

variable {t : Tokenizer} {c : Char} {text : Text}

theorem breaks_cons_shown (c : Char) (text : Text) :
    Text.breaks (shown c :: text) = Text.breaks (c :: text) := by
  rw [shown]
  split
  case isTrue hc => simp [hc, replacement, Text.breaks_cons]
  case isFalse => rfl

theorem breaks_le_cons (c : Char) (text : Text) :
    Text.breaks text ≤ Text.breaks (c :: text) := by
  rw [Text.breaks_cons]
  exact Nat.le_add_right _ _

theorem ordered_readEndTagOpen (h : t.Settled (Text.breaks [c])) :
    (t.readEndTagOpen c).Ordered := by
  rw [readEndTagOpen]
  repeat' split
  · exact (h.deliver rfl).enter (Nat.zero_le _)
  · exact h.enter (Nat.zero_le _)
  · exact (h.deliver rfl).enter (Nat.le_of_eq (breaks_cons_shown c []))

theorem ordered_readBogusComment (h : t.Settled (Text.breaks (c :: text))) :
    (t.readBogusComment text c).Ordered := by
  rw [readBogusComment]
  split
  · exact h.comment (breaks_le_cons c text)
  · exact h.enter (Nat.le_of_eq (breaks_cons_shown c text))

theorem ordered_readDeclarationOpen (h : t.Settled (Text.breaks (c :: text))) :
    (t.readDeclarationOpen text c).Ordered := by
  rw [readDeclarationOpen]
  repeat' split
  · exact h.enter (Nat.zero_le _)
  · exact h.enter (Nat.zero_le _)
  · exact h.enter (Nat.le_refl _)
  · exact ordered_readBogusComment (h.deliver rfl)

theorem ordered_readComment (h : t.Settled (Text.breaks (c :: text)))
    (place : CommentPlace) : (t.readComment place text c).Ordered := by
  rw [readComment.eq_def]
  repeat' split
  all_goals first
    | exact h.comment (breaks_le_cons c text)
    | exact h.enter (Nat.le_of_eq (breaks_cons_shown c text))
    | exact h.enter (breaks_le_cons c text)

end Comments

/-! ## Reading a character -/

section Reading

variable {t : Tokenizer}

theorem Settled.count {n : Nat} (h : t.Settled n) (c : Char) : (t.count c).Settled n := by
  rw [Tokenizer.count.eq_def]
  repeat' split
  · exact h
  · exact ⟨h.placed, Nat.le_succ_of_le h.room⟩
  · exact h

theorem count_eq {c : Char} (hmode : ∀ tag, t.mode ≠ .tag tag .beforeValue) :
    t.count c = if c = '\n' then { t with line := t.line + 1 } else t := by
  rw [count.eq_def]
  split
  case h_1 tag heq => exact absurd heq (hmode tag)
  case h_2 => rfl

/-- Except in front of a value, a line feed makes room for itself. -/
theorem Settled.count_breaks {n : Nat} (h : t.Settled n) (c : Char)
    (hmode : ∀ tag, t.mode ≠ .tag tag .beforeValue) :
    (t.count c).Settled (n + Text.breaks [c]) := by
  rw [count_eq hmode, Text.breaks_cons, Text.breaks_nil, Nat.zero_add]
  by_cases hc : c = '\n'
  · rw [if_pos hc, if_pos hc]
    exact ⟨h.placed, Nat.succ_le_succ h.room⟩
  · rw [if_neg hc, if_neg hc]
    exact h

/-- In a mode that holds the text of a comment, a character is counted before it is
read. -/
theorem Settled.count_pending {mode : Mode} {text : Text} (h : t.Ordered) (c : Char)
    (hmode : t.mode = mode) (hpending : mode.pending = Text.breaks text)
    (htag : ∀ tag, mode ≠ .tag tag .beforeValue) :
    (t.count c).Settled (Text.breaks (c :: text)) := by
  rw [Ordered, hmode, hpending] at h
  have hbreaks := Settled.count_breaks h c (by rwa [hmode])
  rwa [Nat.add_comm, ← Text.breaks_append] at hbreaks

theorem ordered_readPlain (h : t.Ordered) (c : Char) :
    ((t.count c).readPlain c).Ordered := by
  have hcount := h.count c
  rw [readPlain.eq_def, mode_count]
  cases hmode : t.mode with
  | data => exact hcount.of_moves (moves_readData _ c)
  | raw kind => exact hcount.of_moves (moves_readRaw _ c kind)
  | reference within reference => exact hcount.weaken (by simp [hmode])
  | tagOpen => exact hcount.of_moves (moves_readTagOpen _ c)
  | endTagOpen =>
      have hbreaks := h.count_breaks c (by simp [hmode])
      exact ordered_readEndTagOpen (hbreaks.weaken (Nat.le_add_left _ _))
  | tag tag place => exact hcount.of_moves (moves_readTag _ c tag place)
  | rawLess kind => exact hcount.of_moves (moves_readRawLess _ c kind)
  | rawEndOpen kind => exact hcount.of_moves (moves_readRawEndOpen _ c kind)
  | rawEndName kind seen => exact hcount.of_moves (moves_readRawEndName _ c kind seen)
  | escapeStart dashes => exact hcount.of_moves (moves_readEscapeStart _ c dashes)
  | escapedDash kind several => exact hcount.of_moves (moves_readEscapedDash _ c kind several)
  | doubleEscapeStart seen => exact hcount.of_moves (moves_readDoubleEscapeStart _ c seen)
  | doubleEscapeEnd seen => exact hcount.of_moves (moves_readDoubleEscapeEnd _ c seen)
  | declarationOpen seen =>
      exact ordered_readDeclarationOpen (Settled.count_pending h c hmode rfl (by simp))
  | comment place text =>
      exact ordered_readComment (Settled.count_pending h c hmode rfl (by simp)) place
  | bogusComment text =>
      exact ordered_readBogusComment (Settled.count_pending h c hmode rfl (by simp))
  | documentType =>
      exact hcount.of_moves (moves_readDocumentType _ c (by simp [hmode, Mode.pending]))

theorem settled_letters {n : Nat} (h : t.Settled n) (chunk : Text) :
    (t.letters chunk).Settled n := by
  rw [letters]
  induction chunk generalizing t with
  | nil => exact h
  | cons c chunk ih => exact ih (h.text [c])

theorem pending_around (within : Option RawKind) : (around within).pending = 0 := by
  cases within <;> rfl

theorem ordered_read (h : t.Ordered) (c : Char) : (t.read c).Ordered := by
  rw [read.eq_def]
  split
  case h_1 within reference hmode =>
    have haround : ∀ text, ((t.letters text).enter (around within)).Ordered := by
      intro text
      exact (settled_letters h text).enter (by simp [pending_around])
    split
    · exact h.enter (by simp [hmode, Mode.pending])
    · exact haround _
    · exact ordered_readPlain (haround _) c
  case h_2 => exact ordered_readPlain h c

/-- Every character of a document keeps the comments in order. -/
theorem ordered_step (h : t.Ordered) (c : Char) : (t.step c).Ordered := by
  rw [step]
  repeat' split
  · exact (ordered_read h '\n').congr rfl rfl
  · exact h.congr rfl rfl
  · exact (ordered_read h c).congr rfl rfl

theorem ordered_foldl (h : t.Ordered) (content : Text) :
    (content.foldl step t).Ordered := by
  induction content generalizing t with
  | nil => exact h
  | cons c content ih => exact ih (ordered_step h c)

theorem settled_close (h : t.Ordered) : t.close.Settled 0 := by
  have hzero : t.Settled 0 := h.weaken (Nat.zero_le _)
  rw [close.eq_def]
  split
  all_goals first
    | exact hzero
    | exact hzero.text _
    | exact settled_letters hzero _
    | exact hzero.deliver rfl
    | skip
  all_goals
    rename_i hmode
    refine Settled.weaken (h.comment ?_) (Nat.zero_le _)
    rw [hmode]
    exact Nat.le_refl _

end Reading

end Tokenizer

/-- The comment tokens of a document are placed on its lines. -/
theorem commentsPlaced_tokens (content : Text) :
    ∃ newestFirst, tokens content = newestFirst.reverse ∧ CommentsPlaced newestFirst ∧
      lastCommentLine newestFirst ≤ 1 + lineBreaks content := by
  have hstart : Tokenizer.start.Ordered := ⟨trivial, Nat.le_refl 1⟩
  have hread := Tokenizer.ordered_foldl hstart (dropMark content)
  have hend : Token.endOfDocument.isComment = false := rfl
  have hclose := (Tokenizer.settled_close hread).deliver hend
  exact ⟨_, rfl, hclose.placed, Nat.le_trans hclose.room (line_close_foldl content)⟩

end Html

end LicenseText
