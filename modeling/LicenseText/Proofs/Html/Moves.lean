import LicenseText.Html.Tokenizer
import LicenseText.Proofs.Text.Breaks

/-!
# What reading a character does to the tokenizer

Outside comments, reading a character delivers some tokens, none of which is a comment,
and enters a mode that holds no line feed of a comment (`Tokenizer.Moves`). What is kept by
these two steps is therefore kept in all modes but those that hold a comment.
-/

namespace LicenseText

namespace Html

def Token.isComment : Token → Bool
  | .comment _ => true
  | _ => false

/-- The line feeds of the comment that is being read. -/
def Mode.pending : Mode → Nat
  | .declarationOpen text | .comment _ text | .bogusComment text => Text.breaks text
  | _ => 0

namespace Tokenizer

@[simp] theorem mode_count (t : Tokenizer) (c : Char) : (t.count c).mode = t.mode := by
  rw [count.eq_def]
  repeat' split
  all_goals rfl

@[simp] theorem tokens_count (t : Tokenizer) (c : Char) : (t.count c).tokens = t.tokens := by
  rw [count.eq_def]
  repeat' split
  all_goals rfl

/-- A tokenizer becomes another one by delivering tokens that are no comments, and then
entering a mode that holds no line feed of a comment. -/
inductive Moves : Tokenizer → Tokenizer → Prop where
  | enter {t : Tokenizer} {mode : Mode} (hmode : mode.pending = 0) : Moves t (t.enter mode)
  | deliver {t u : Tokenizer} {token : Token} (htoken : token.isComment = false)
      (h : Moves (t.deliver token) u) : Moves t u
  | name {t u : Tokenizer} {name : Text}
      (h : Moves { t with lastStart := some name } u) : Moves t u

section Modes

variable {t : Tokenizer} {u : Tokenizer}

theorem Moves.text {chunk : Text} (h : (t.text chunk).Moves u) : t.Moves u :=
  h.deliver rfl

theorem moves_tag (t : Tokenizer) (tag : OpenTag) (selfClosing : Bool) :
    t.Moves (t.tag tag selfClosing) := by
  rw [Tokenizer.tag]
  split
  · exact .deliver rfl (.enter rfl)
  · dsimp only
    split
    · exact .deliver rfl (.name (.enter rfl))
    · exact .deliver rfl (.name (.enter rfl))

variable (t) (c : Char)

theorem moves_readData : t.Moves (t.readData c) := by
  rw [readData]
  repeat' split
  · exact .enter rfl
  · exact .enter rfl
  · exact .deliver rfl (.enter rfl)
  · exact .text (.enter rfl)

theorem moves_readRaw (kind : RawKind) : t.Moves (t.readRaw kind c) := by
  rw [readRaw.eq_def]
  repeat' split
  all_goals first
    | exact .enter rfl
    | exact .text (.enter rfl)

theorem moves_readTagOpen : t.Moves (t.readTagOpen c) := by
  rw [readTagOpen]
  repeat' split
  · exact .enter rfl
  · exact .enter rfl
  · exact .deliver rfl (.enter rfl)
  · exact .enter rfl
  · exact .deliver rfl (.text (moves_readData _ c))

theorem moves_readBeforeAttribute (tag : OpenTag) :
    t.Moves (t.readBeforeAttribute tag c) := by
  rw [readBeforeAttribute]
  repeat' split
  all_goals first
    | exact .enter rfl
    | exact moves_tag t _ _

theorem moves_readBareValue (tag : OpenTag) : t.Moves (t.readBareValue tag c) := by
  rw [readBareValue]
  repeat' split
  all_goals first
    | exact .enter rfl
    | exact moves_tag t _ _

theorem moves_readTag (tag : OpenTag) (place : TagPlace) :
    t.Moves (t.readTag tag place c) := by
  rw [readTag.eq_def]
  repeat' split
  all_goals first
    | exact .enter rfl
    | exact moves_tag t _ _
    | exact moves_readBeforeAttribute t c tag
    | exact moves_readBareValue t c tag

theorem moves_readRawLess (kind : RawKind) : t.Moves (t.readRawLess kind c) := by
  rw [readRawLess.eq_def]
  repeat' split
  all_goals first
    | exact .enter rfl
    | exact .text (.enter rfl)
    | exact moves_readRaw t c _
    | exact .text (moves_readRaw _ c _)

theorem moves_readRawEndOpen (kind : RawKind) : t.Moves (t.readRawEndOpen kind c) := by
  rw [readRawEndOpen]
  split
  · exact .enter rfl
  · exact .text (moves_readRaw _ c kind)

theorem moves_readRawEndName (kind : RawKind) (seen : Text) :
    t.Moves (t.readRawEndName kind seen c) := by
  rw [readRawEndName]
  dsimp only
  repeat' split
  all_goals first
    | exact .enter rfl
    | exact moves_tag t _ _
    | exact .text (moves_readRaw _ c kind)

theorem moves_readEscapeStart (dashes : Nat) : t.Moves (t.readEscapeStart dashes c) := by
  rw [readEscapeStart]
  repeat' split
  · exact .text (.enter rfl)
  · exact .text (.enter rfl)
  · exact moves_readRaw t c _

theorem moves_readEscapedDash (kind : RawKind) (several : Bool) :
    t.Moves (t.readEscapedDash kind several c) := by
  rw [readEscapedDash]
  repeat' split
  · exact .text (.enter rfl)
  · exact .text (.enter rfl)
  · exact moves_readRaw t c _

theorem moves_readDoubleEscapeStart (seen : Text) :
    t.Moves (t.readDoubleEscapeStart seen c) := by
  rw [readDoubleEscapeStart]
  repeat' split
  all_goals first
    | exact .text (.enter rfl)
    | exact moves_readRaw t c _

theorem moves_readDoubleEscapeEnd (seen : Text) :
    t.Moves (t.readDoubleEscapeEnd seen c) := by
  rw [readDoubleEscapeEnd]
  repeat' split
  all_goals first
    | exact .text (.enter rfl)
    | exact moves_readRaw t c _

theorem moves_readDocumentType (hmode : t.mode.pending = 0) :
    t.Moves (t.readDocumentType c) := by
  rw [readDocumentType]
  split
  · exact .deliver rfl (.enter rfl)
  · exact .enter hmode

end Modes

end Tokenizer

end Html

end LicenseText
