import Mathlib.Data.List.Infix
import Mathlib.Data.List.ModifyLast
import LicenseText.Delimited.Block
import LicenseText.Proofs.Text.Lines
import LicenseText.Text.Blank

/-!
# Source text put together from segments

A source text is a list of segments: line comments, block comments, code and blank lines.
`Segment.write` gives the lines of a segment, and `Segment.comment?` the comment that
these lines contain. The block comments of a language whose block lines are decorated are
documentation blocks, with their delimiters on lines of their own.
-/

namespace LicenseText

namespace BlockDelimiters

/-- The lines of a block comment whose delimiters stand in front of its first and behind
its last line. -/
def writePlain (block : BlockDelimiters) (lines : List Text) : List Text :=
  (lines.modifyLast (· ++ ' ' :: block.closing)).modifyHead (block.opening ++ ' ' :: ·)

/-- The line of a documentation block that holds `line`. -/
def decorate (decoration line : Text) : Text := ' ' :: (decoration ++ ' ' :: line)

def write (block : BlockDelimiters) (lines : List Text) : List Text :=
  match block.interior with
  | none => block.writePlain lines
  | some decoration =>
    block.opening :: (lines.map (decorate decoration) ++ [' ' :: block.closing])

/-- The body of the comment that is written with the given lines. -/
def bodyOf (block : BlockDelimiters) (lines : List Text) : List Text :=
  match block.interior with
  | none => lines
  | some _ => [] :: (lines ++ [[]])

/-- The lines can be written as a block comment. Without a decoration some line is needed
to stand between the delimiters, and no line may be empty or look like the opening
delimiter. -/
structure Admits (block : BlockDelimiters) (lines : List Text) : Prop where
  trimmed : ∀ line ∈ lines, line.trim = line
  oneLine : ∀ line ∈ lines, '\n' ∉ line
  unclosed : ∀ line ∈ lines, ¬block.closing <:+: line
  plain : block.interior = none →
    lines ≠ [] ∧ ∀ line ∈ lines, line ≠ [] ∧ ¬block.opening <+: line

instance (block : BlockDelimiters) (lines : List Text) : Decidable (block.Admits lines) :=
  decidable_of_iff
    (((∀ line ∈ lines, line.trim = line) ∧ (∀ line ∈ lines, '\n' ∉ line) ∧
      ∀ line ∈ lines, ¬block.closing <:+: line) ∧ (block.interior = none →
        lines ≠ [] ∧ ∀ line ∈ lines, line ≠ [] ∧ ¬block.opening <+: line))
    ⟨fun h => ⟨h.1.1, h.1.2.1, h.1.2.2, h.2⟩,
      fun h => ⟨⟨h.trimmed, h.oneLine, h.unclosed⟩, h.plain⟩⟩

end BlockDelimiters

structure CommentLanguage where
  start : Text
  block : BlockDelimiters
  quotes : List Char

namespace CommentLanguage

/-- The language as the reader takes it. -/
def delimiters (language : CommentLanguage) : DelimitedSyntax where
  line := some language.start
  block := some language.block
  quotes := language.quotes

end CommentLanguage

/-- A stretch of a source text. -/
inductive Segment where
  | line (text : Text)
  | block (lines : List Text)
  | code (raw : Text)
  | blank (raw : Text)
  deriving Repr, DecidableEq

namespace Segment

variable (language : CommentLanguage)

def write : Segment → List Text
  | .line text => [language.start ++ ' ' :: text]
  | .block lines => language.block.write lines
  | .code raw => [raw]
  | .blank raw => [raw]

/-- The comment of a segment whose first line has the given number. -/
def comment? (segment : Segment) (number : Nat) : Option Comment :=
  let last := number + (segment.write language).length - 1
  match segment with
  | .line text => some (.written [text] number last)
  | .block lines => some (.written (language.block.bodyOf lines) number last)
  | .code _ | .blank _ => none

/-- The segment is what it is called: what it is made of stays on its lines, and code is
no comment. -/
def Fits : Segment → Prop
  | .line text => text.trim = text ∧ '\n' ∉ text
  | .block lines => language.block.Admits lines
  | .code raw => '\n' ∉ raw ∧ raw.trim ≠ [] ∧ ¬language.start <+: raw.trim ∧
      ¬language.block.opening <+: raw.trim
  | .blank raw => '\n' ∉ raw ∧ raw.trim = []

instance (segment : Segment) : Decidable (segment.Fits language) :=
  match segment with
  | .line text => inferInstanceAs (Decidable (text.trim = text ∧ '\n' ∉ text))
  | .block lines => inferInstanceAs (Decidable (language.block.Admits lines))
  | .code raw => inferInstanceAs (Decidable ('\n' ∉ raw ∧ raw.trim ≠ [] ∧
      ¬language.start <+: raw.trim ∧ ¬language.block.opening <+: raw.trim))
  | .blank raw => inferInstanceAs (Decidable ('\n' ∉ raw ∧ raw.trim = []))

end Segment

namespace CommentLanguage

variable (language : CommentLanguage)

def source (segments : List Segment) : Text :=
  Text.unlines (segments.flatMap (Segment.write language))

/-- The comments of the segments, the first of which starts on the given line. -/
def commentsFrom (number : Nat) : List Segment → List Comment
  | [] => []
  | segment :: rest =>
    (segment.comment? language number).toList ++
      commentsFrom (number + (segment.write language).length) rest

end CommentLanguage

end LicenseText
