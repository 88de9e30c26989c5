import LicenseText.Proofs.Html.CommentLines
import LicenseText.Proofs.Markup

/-!
# The lines of text tokens

The lines of the tokens do not decrease, and a text token has room for its line feeds
behind the token before it. Only a line feed behind a `<` that turned out to open nothing
has none, since it is counted before that `<` is delivered; but then the run of text has a
character that is no blank (`TextsPlaced`). References that stand for line feeds break
this, so there must be none.
-/

namespace LicenseText

namespace Html

/-! ## Tokens -/

/-- The line of the newest of tokens that stand newest first. -/
def lastLine : List LocatedToken → Nat
  | [] => 1
  | located :: _ => located.line

def Token.breaks : Token → Nat
  | .text chunk => Text.breaks chunk
  | _ => 0

/-- Whether the run of text that is going on has a character that is no blank. -/
def inked : List LocatedToken → Bool
  | [] => false
  | ⟨.text chunk, _⟩ :: earlier => chunk.any (fun c => !isBlank c) || inked earlier
  | ⟨.null, _⟩ :: earlier | ⟨.malformed, _⟩ :: earlier => inked earlier
  | _ :: _ => false

/-- Among tokens that stand newest first, each is on the line of the token before it or
behind it, and the blanks at the start of a run of text have room for their line feeds. -/
def TextsPlaced : List LocatedToken → Prop
  | [] => True
  | ⟨token, line⟩ :: earlier =>
    lastLine earlier ≤ line ∧
      (inked earlier = true ∨ lastLine earlier + token.breaks ≤ line) ∧
      TextsPlaced earlier

/-! ## References -/

namespace Reference

/-- The text that a reference stands for when the given text follows it. -/
def resolve : Reference → Text → Text
  | reference, [] => reference.close
  | reference, c :: rest =>
    match reference.step c with
    | .more reference => reference.resolve rest
    | .done text _ => text

/-- A line break belongs to no reference. -/
theorem step_of_break {c : Char} (hc : c = '\n' ∨ c = '\r') (reference : Reference) :
    reference.step c = .done reference.close false := by
  have hname : ∀ seen best, stepName seen best c = .done (close (.name seen best)) false := by
    intro seen best
    rcases hc with rfl | rfl <;> rfl
  have hnumber : ∀ base sign value,
      stepNumber base sign value c = .done (close (.number base sign value)) false := by
    intro base sign value
    rcases hc with rfl | rfl <;> simp [stepNumber, digitValue?]
  cases reference with
  | name seen best =>
      cases seen with
      | nil =>
          rw [step, if_neg, hname]
          rcases hc with rfl | rfl <;> decide
      | cons d seen => exact hname _ best
  | hash =>
      rw [step, if_neg, hnumber]
      · rfl
      · rcases hc with rfl | rfl <;> decide
  | number base sign value => exact hnumber base sign value

theorem resolve_of_break {c : Char} (hc : c = '\n' ∨ c = '\r') (reference : Reference)
    (rest : Text) : reference.resolve (c :: rest) = reference.close := by
  rw [resolve, step_of_break hc]

end Reference

abbrev NoBreakReference : Text → Prop :=
  Markup.NoBreakReference Reference.start.resolve

/-- What a mode holds in front of the text has no line feed that could be delivered. -/
def Mode.Plain (rest : Text) : Mode → Prop
  | .reference _ begun => '\n' ∉ begun.resolve rest
  | .rawEndName _ seen => '\n' ∉ seen
  | _ => True

namespace Tokenizer

/-! ## The tokenizer -/

/-- The texts delivered have room, and no token is on a line that is still to come. -/
structure Placed (t : Tokenizer) : Prop where
  placed : TextsPlaced t.tokens
  lastLine_le : lastLine t.tokens ≤ t.line

/-- The text `c`, too, has room. -/
structure RoomFor (c : Char) (t : Tokenizer) : Prop extends t.Placed where
  room : inked t.tokens = true ∨ lastLine t.tokens + Text.breaks [c] ≤ t.line

/-- What is delivered and what is held in front of the text `rest` is in order. -/
structure Tidy (rest : Text) (t : Tokenizer) : Prop extends t.Placed where
  mode : t.mode.Plain rest

section Deliver

variable {t : Tokenizer} {c : Char} {rest : Text}

theorem RoomFor.text {chunk : Text} (h : t.RoomFor c)
    (hchunk : Text.breaks chunk ≤ Text.breaks [c]) : (t.text chunk).Placed := by
  refine ⟨⟨h.lastLine_le, ?_, h.placed⟩, Nat.le_refl _⟩
  rcases h.room with hinked | hroom
  · exact .inl hinked
  · exact .inr (Nat.le_trans (Nat.add_le_add_left hchunk _) hroom)

theorem RoomFor.text_self (h : t.RoomFor c) : (t.text [c]).Placed :=
  h.text (Nat.le_refl _)

theorem RoomFor.text_shown (h : t.RoomFor c) : (t.text [shown c]).Placed :=
  h.text (Nat.le_of_eq (breaks_cons_shown c []))

namespace Placed

theorem congr {u : Tokenizer} (h : t.Placed) (htokens : u.tokens = t.tokens)
    (hline : u.line = t.line) : u.Placed := by
  refine ⟨?_, ?_⟩
  · rw [htokens]
    exact h.placed
  · rw [htokens, hline]
    exact h.lastLine_le

theorem deliver {token : Token} (h : t.Placed) (htoken : token.breaks = 0) :
    (t.deliver token).Placed := by
  refine ⟨⟨h.lastLine_le, .inr ?_, h.placed⟩, Nat.le_refl _⟩
  rw [htoken]
  exact h.lastLine_le

/-- Text without line feeds needs no room, and behind a character that is no blank there
is room for anything. -/
theorem text_ink {ink : Char} {chunk : Text} (h : t.Placed) (hink : isBlank ink = false)
    (hchunk : '\n' ∉ chunk) (c : Char) : (t.text (ink :: chunk)).RoomFor c := by
  have hne : ink ≠ '\n' := by
    rintro rfl
    contradiction
  have hbreaks : (Token.text (ink :: chunk)).breaks = 0 :=
    Text.breaks_eq_zero (List.not_mem_cons_of_ne_of_not_mem hne.symm hchunk)
  refine ⟨h.deliver hbreaks, .inl ?_⟩
  simp [Tokenizer.text, Tokenizer.deliver, inked, hink]

theorem enter {mode : Mode} (h : t.Placed) (hmode : mode.Plain rest) :
    (t.enter mode).Tidy rest :=
  ⟨h.congr rfl rfl, hmode⟩

theorem comment (h : t.Placed) (reversed : Text) : (t.comment reversed).Tidy rest :=
  (h.deliver rfl).enter trivial

theorem tag (h : t.Placed) (tag : OpenTag) (selfClosing : Bool) :
    (t.tag tag selfClosing).Tidy rest := by
  rw [Tokenizer.tag]
  split
  · exact (h.deliver rfl).enter trivial
  · have hstart : ({ t.deliver (.startTag tag.name.reverse selfClosing) with
        lastStart := some tag.name.reverse } : Tokenizer).Placed :=
      (h.deliver rfl).congr rfl rfl
    dsimp only
    split
    · exact hstart.enter trivial
    · exact hstart.enter trivial

end Placed

end Deliver

/-! ## The modes -/

section Modes

variable {t : Tokenizer} {c : Char} {rest : Text}

/-- An ampersand in front of the text begins no reference to a line feed. -/
def BeginsNoBreak (c : Char) (rest : Text) : Prop :=
  c = '&' → '\n' ∉ Reference.start.resolve rest

theorem tidy_readData (h : t.RoomFor c) (hbegin : BeginsNoBreak c rest) :
    (t.readData c).Tidy rest := by
  rw [readData]
  split
  case isTrue hamp => exact h.enter (hbegin hamp)
  case isFalse =>
    repeat' split
    · exact h.enter trivial
    · exact (h.deliver rfl).enter trivial
    · exact h.text_self.enter trivial

theorem tidy_readRaw (h : t.RoomFor c) (hbegin : BeginsNoBreak c rest) (kind : RawKind) :
    (t.readRaw kind c).Tidy rest := by
  rw [readRaw.eq_def]
  repeat' split
  all_goals first
    | exact h.enter trivial
    | exact h.text_self.enter trivial
    | exact h.text_shown.enter trivial
    | exact h.enter (hbegin ‹_›)

theorem tidy_readTagOpen (h : t.RoomFor c) (hbegin : BeginsNoBreak c rest) :
    (t.readTagOpen c).Tidy rest := by
  rw [readTagOpen]
  repeat' split
  · exact h.enter trivial
  · exact h.enter trivial
  · exact (h.deliver rfl).enter trivial
  · exact h.enter trivial
  · exact tidy_readData ((h.deliver rfl).text_ink (by decide) (by simp) c) hbegin

theorem not_newline_of_isAlpha (hc : c.isAlpha = true) : c ≠ '\n' := by
  rintro rfl
  contradiction

theorem breaks_less_cons (c : Char) : Text.breaks ['<', c] = Text.breaks [c] := by
  rw [Text.breaks_cons, if_neg (by decide), Nat.add_zero]

theorem tidy_readRawLess (h : t.RoomFor c) (hbegin : BeginsNoBreak c rest) (kind : RawKind) :
    (t.readRawLess kind c).Tidy rest := by
  have hless : (t.text ['<']).RoomFor c := h.text_ink (by decide) (by simp) c
  have hletter : (t.text ['<', c]).Placed := h.text (Nat.le_of_eq (breaks_less_cons c))
  rw [readRawLess.eq_def]
  repeat' split
  all_goals first
    | exact h.enter trivial
    | exact h.text_self.enter trivial
    | exact hletter.enter trivial
    | exact tidy_readRaw h hbegin _
    | exact tidy_readRaw hless hbegin _
    | exact (h.deliver (by decide)).enter trivial

theorem tidy_readRawEndOpen (h : t.RoomFor c) (hbegin : BeginsNoBreak c rest)
    (kind : RawKind) : (t.readRawEndOpen kind c).Tidy rest := by
  rw [readRawEndOpen]
  split
  case isTrue hc => exact h.enter (by simp [Mode.Plain, (not_newline_of_isAlpha hc).symm])
  case isFalse => exact tidy_readRaw (h.text_ink (by decide) (by decide) c) hbegin kind

theorem tidy_readRawEndName (h : t.RoomFor c) (hbegin : BeginsNoBreak c rest)
    (kind : RawKind) {seen : Text} (hseen : '\n' ∉ seen) :
    (t.readRawEndName kind seen c).Tidy rest := by
  rw [readRawEndName]
  dsimp only
  repeat' split
  · exact h.enter trivial
  · exact h.enter trivial
  · exact h.tag _ _
  case isTrue hc =>
    exact h.enter (List.not_mem_cons_of_ne_of_not_mem (not_newline_of_isAlpha hc).symm hseen)
  case isFalse =>
    exact tidy_readRaw (h.text_ink (by decide) (by simpa using hseen) c) hbegin kind

theorem tidy_readEscapeStart (h : t.RoomFor c) (hbegin : BeginsNoBreak c rest)
    (dashes : Nat) : (t.readEscapeStart dashes c).Tidy rest := by
  rw [readEscapeStart]
  repeat' split
  · exact h.text_self.enter trivial
  · exact h.text_self.enter trivial
  · exact tidy_readRaw h hbegin _

theorem tidy_readEscapedDash (h : t.RoomFor c) (hbegin : BeginsNoBreak c rest)
    (kind : RawKind) (several : Bool) : (t.readEscapedDash kind several c).Tidy rest := by
  rw [readEscapedDash]
  repeat' split
  · exact h.text_self.enter trivial
  · exact h.text_self.enter trivial
  · exact tidy_readRaw h hbegin _

theorem tidy_readDoubleEscapeStart (h : t.RoomFor c) (hbegin : BeginsNoBreak c rest)
    (seen : Text) : (t.readDoubleEscapeStart seen c).Tidy rest := by
  rw [readDoubleEscapeStart]
  repeat' split
  · exact h.text_self.enter trivial
  · exact h.text_self.enter trivial
  · exact h.text_self.enter trivial
  · exact tidy_readRaw h hbegin _

theorem tidy_readDoubleEscapeEnd (h : t.RoomFor c) (hbegin : BeginsNoBreak c rest)
    (seen : Text) : (t.readDoubleEscapeEnd seen c).Tidy rest := by
  rw [readDoubleEscapeEnd]
  repeat' split
  · exact h.text_self.enter trivial
  · exact h.text_self.enter trivial
  · exact h.text_self.enter trivial
  · exact tidy_readRaw h hbegin _

end Modes

/-! ## The modes that deliver no text -/

section Silent

variable {t : Tokenizer} {rest : Text} (h : t.Placed) (c : Char)

include h

theorem tidy_readEndTagOpen : (t.readEndTagOpen c).Tidy rest := by
  rw [readEndTagOpen]
  repeat' split
  · exact (h.deliver rfl).enter trivial
  · exact h.enter trivial
  · exact (h.deliver rfl).enter trivial

theorem tidy_readBeforeAttribute (tag : OpenTag) :
    (t.readBeforeAttribute tag c).Tidy rest := by
  rw [readBeforeAttribute]
  repeat' split
  all_goals first
    | exact h.enter trivial
    | exact h.tag _ _

theorem tidy_readBareValue (tag : OpenTag) : (t.readBareValue tag c).Tidy rest := by
  rw [readBareValue]
  repeat' split
  all_goals first
    | exact h.enter trivial
    | exact h.tag _ _

theorem tidy_readTag (tag : OpenTag) (place : TagPlace) :
    (t.readTag tag place c).Tidy rest := by
  rw [readTag.eq_def]
  repeat' split
  all_goals first
    | exact h.enter trivial
    | exact h.tag _ _
    | exact tidy_readBeforeAttribute h c tag
    | exact tidy_readBareValue h c tag

theorem tidy_readBogusComment (text : Text) : (t.readBogusComment text c).Tidy rest := by
  rw [readBogusComment]
  split
  · exact h.comment text
  · exact h.enter trivial

theorem tidy_readDeclarationOpen (seen : Text) :
    (t.readDeclarationOpen seen c).Tidy rest := by
  rw [readDeclarationOpen]
  repeat' split
  · exact h.enter trivial
  · exact h.enter trivial
  · exact h.enter trivial
  · exact tidy_readBogusComment (h.deliver rfl) c seen

theorem tidy_readComment (place : CommentPlace) (text : Text) :
    (t.readComment place text c).Tidy rest := by
  rw [readComment.eq_def]
  repeat' split
  all_goals first
    | exact h.comment text
    | exact h.enter trivial

theorem tidy_readDocumentType (hmode : t.mode = .documentType) :
    (t.readDocumentType c).Tidy rest := by
  rw [readDocumentType]
  split
  · exact (h.deliver rfl).enter trivial
  · exact ⟨h, by rw [hmode]; trivial⟩

end Silent

/-! ## Reading a character -/

section Reading

variable {t : Tokenizer} {c : Char} {rest : Text}

theorem Placed.count (h : t.Placed) (c : Char) : (t.count c).Placed := by
  rw [Tokenizer.count.eq_def]
  repeat' split
  · exact h
  · exact ⟨h.placed, Nat.le_succ_of_le h.lastLine_le⟩
  · exact h

/-- Except in front of a value, a line feed makes room for itself. -/
theorem Placed.roomFor_count (h : t.Placed) (c : Char)
    (hmode : ∀ tag, t.mode ≠ .tag tag .beforeValue) : (t.count c).RoomFor c := by
  refine ⟨h.count c, .inr ?_⟩
  rw [count_eq hmode, Text.breaks_cons, Text.breaks_nil, Nat.zero_add]
  by_cases hc : c = '\n'
  · rw [if_pos hc, if_pos hc]
    exact Nat.succ_le_succ h.lastLine_le
  · rw [if_neg hc, if_neg hc]
    exact h.lastLine_le

theorem tidy_readPlain (h : t.Tidy (c :: rest)) (hbegin : BeginsNoBreak c rest)
    (hreference : ∀ within begun, t.mode ≠ .reference within begun) :
    ((t.count c).readPlain c).Tidy rest := by
  have hcount := h.count c
  have hroom := h.roomFor_count c
  rw [readPlain.eq_def, mode_count]
  cases hmode : t.mode with
  | reference within begun => exact absurd hmode (hreference within begun)
  | tag tag place => exact tidy_readTag hcount c tag place
  | endTagOpen => exact tidy_readEndTagOpen hcount c
  | declarationOpen seen => exact tidy_readDeclarationOpen hcount c seen
  | comment place text => exact tidy_readComment hcount c place text
  | bogusComment text => exact tidy_readBogusComment hcount c text
  | documentType => exact tidy_readDocumentType hcount c (by rw [mode_count, hmode])
  | data => exact tidy_readData (hroom (by simp [hmode])) hbegin
  | raw kind => exact tidy_readRaw (hroom (by simp [hmode])) hbegin kind
  | tagOpen => exact tidy_readTagOpen (hroom (by simp [hmode])) hbegin
  | rawLess kind => exact tidy_readRawLess (hroom (by simp [hmode])) hbegin kind
  | rawEndOpen kind => exact tidy_readRawEndOpen (hroom (by simp [hmode])) hbegin kind
  | rawEndName kind seen =>
      have hseen := h.mode
      rw [hmode] at hseen
      exact tidy_readRawEndName (hroom (by simp [hmode])) hbegin kind hseen
  | escapeStart dashes =>
      exact tidy_readEscapeStart (hroom (by simp [hmode])) hbegin dashes
  | escapedDash kind several =>
      exact tidy_readEscapedDash (hroom (by simp [hmode])) hbegin kind several
  | doubleEscapeStart seen =>
      exact tidy_readDoubleEscapeStart (hroom (by simp [hmode])) hbegin seen
  | doubleEscapeEnd seen =>
      exact tidy_readDoubleEscapeEnd (hroom (by simp [hmode])) hbegin seen

theorem Placed.letters (h : t.Placed) {chunk : Text} (hchunk : '\n' ∉ chunk) :
    (t.letters chunk).Placed := by
  rw [Tokenizer.letters]
  induction chunk generalizing t with
  | nil => exact h
  | cons d chunk ih =>
      obtain ⟨hd, hrest⟩ := List.ne_and_not_mem_of_not_mem_cons hchunk
      refine ih (h.deliver ?_) hrest
      exact Text.breaks_eq_zero (by simpa using hd)

/-- Between tags and in raw text nothing is held. -/
theorem tidy_letters (h : t.Placed) {chunk : Text} (hchunk : '\n' ∉ chunk)
    (within : Option RawKind) : ((t.letters chunk).enter (around within)).Tidy rest := by
  refine (h.letters hchunk).enter ?_
  cases within <;> trivial

theorem tidy_read (h : t.Tidy (c :: rest)) (hbegin : BeginsNoBreak c rest) :
    (t.read c).Tidy rest := by
  rw [read.eq_def]
  split
  case h_1 within begun hmode =>
    have hresolve := h.mode
    rw [hmode, Mode.Plain, Reference.resolve] at hresolve
    split
    case h_1 next hstep =>
      rw [hstep] at hresolve
      exact h.enter hresolve
    case h_2 text hstep =>
      rw [hstep] at hresolve
      exact tidy_letters h.toPlaced hresolve within
    case h_3 text hstep =>
      rw [hstep] at hresolve
      refine tidy_readPlain (tidy_letters h.toPlaced hresolve within) hbegin ?_
      cases within <;> simp [enter, around]
  case h_2 hmode => exact tidy_readPlain h hbegin hmode

end Reading

/-! ## Reading a document -/

/-- A line feed behind a carriage return is passed over, so behind a carriage return the
mode must be plain whatever follows. -/
structure Upright (rest : Text) (t : Tokenizer) : Prop extends t.Tidy rest where
  afterReturn : t.afterReturn = true → ∀ rest, t.mode.Plain rest

section Document

variable {t : Tokenizer} {c : Char} {rest : Text}

/-- A reference that a line break ends does not depend on what follows. -/
theorem plain_of_break {mode : Mode} {d : Char} (h : mode.Plain (c :: rest))
    (hc : c = '\n' ∨ c = '\r') (hd : d = '\n' ∨ d = '\r') (behind : Text) :
    mode.Plain (d :: behind) := by
  cases mode with
  | reference within begun =>
      rw [Mode.Plain, Reference.resolve_of_break hc] at h
      rwa [Mode.Plain, Reference.resolve_of_break hd]
  | rawEndName kind seen => exact h
  | _ => trivial

theorem Upright.step (h : t.Upright (c :: rest)) (hbegin : BeginsNoBreak c rest) :
    (t.step c).Upright rest := by
  rw [Tokenizer.step]
  split
  case isTrue hreturn =>
    have hread : ∀ rest, (t.read '\n').Tidy rest := by
      intro behind
      have hplain := plain_of_break h.mode (.inr hreturn) (.inl rfl) behind
      exact tidy_read ⟨h.toPlaced, hplain⟩ (fun hamp => absurd hamp (by decide))
    exact ⟨⟨(hread rest).congr rfl rfl, (hread rest).mode⟩,
      fun _ behind => (hread behind).mode⟩
  case isFalse =>
    split
    case isTrue hskip =>
      exact ⟨⟨h.congr rfl rfl, h.afterReturn hskip.2 rest⟩, fun hreturn => by contradiction⟩
    case isFalse =>
      have hread := tidy_read h.toTidy hbegin
      exact ⟨⟨hread.congr rfl rfl, hread.mode⟩, fun hreturn => by contradiction⟩

theorem Upright.foldl {content : Text} (h : t.Upright content)
    (hplain : NoBreakReference content) : (content.foldl Tokenizer.step t).Upright [] := by
  induction content generalizing t with
  | nil => exact h
  | cons c content ih => exact ih (h.step hplain.1) hplain.2

theorem placed_close (h : t.Tidy []) : t.close.Placed := by
  have hmode := h.mode
  have hless : ∀ chunk, '\n' ∉ chunk → (t.text chunk).Placed := fun chunk hchunk =>
    h.deliver (Text.breaks_eq_zero hchunk)
  rw [close.eq_def]
  split
  all_goals first
    | exact h.toPlaced
    | exact hless _ (by decide)
    | exact @Tidy.toPlaced [] _ (h.comment _)
    | exact h.deliver rfl
    | skip
  case h_8 within begun heq =>
    rw [heq] at hmode
    exact h.letters hmode
  case h_14 kind seen heq =>
    rw [heq, Mode.Plain] at hmode
    exact hless _ (by simpa using hmode)

end Document

end Tokenizer

/-- In a document without references to line feeds the texts have room. -/
theorem textsPlaced_tokens {content : Text} (hplain : NoBreakReference content) :
    ∃ newestFirst, tokens content = newestFirst.reverse ∧ TextsPlaced newestFirst := by
  have hdropped : NoBreakReference (dropMark content) := by
    rw [dropMark.eq_def]
    split
    · exact hplain.2
    · exact hplain
  have hstart : Tokenizer.start.Upright (dropMark content) :=
    ⟨⟨⟨trivial, Nat.le_refl 1⟩, trivial⟩, fun hreturn => by contradiction⟩
  have hread := hstart.foldl hdropped
  exact ⟨_, rfl, ((Tokenizer.placed_close hread.toTidy).deliver rfl).placed⟩

end Html

end LicenseText
