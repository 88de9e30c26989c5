import LicenseText.Text.Basic

/-!
# Comments, string literals and items

What a reader finds in a document. A comment keeps the lines it spans, a string
literal the one line it was found on. The text of a comment is its body, one line of
the body to a line of the text.
-/

namespace LicenseText

/-- A comment and the lines it spans, the first and the last included. A comment is
`multiline` when it spans several lines or was joined from several comments. The lines of
a document are natural numbers; whoever joins comments of their own may have the lines in
machine words. -/
structure Comment (Line : Type := Nat) where
  body : List Text
  startLine : Line
  endLine : Line
  multiline : Bool
  deriving Repr, DecidableEq

namespace Comment

/-- A comment as it is written in a document. -/
def written (body : List Text) (startLine endLine : Nat) : Comment :=
  ⟨body, startLine, endLine, startLine != endLine⟩

def onLine (text : Text) (line : Nat) : Comment := written [text] line line

def text (c : Comment) : Text := Text.joinLines c.body

/-- Whether `next` starts on a line of `c` or before it, or on the line that follows. The
line behind the largest machine word is line zero. -/
def touches {Line : Type} [LE Line] [DecidableLE Line] [Add Line] [OfNat Line 1]
    (c next : Comment Line) : Bool :=
  next.startLine ≤ c.endLine + 1

/-- The comment that starts with `c` and goes on with `next`. -/
def join {Line : Type} (c next : Comment Line) : Comment Line :=
  ⟨c.body ++ next.body, c.startLine, next.endLine, true⟩

end Comment

/-- A string literal, or a run of text between markup, and the line it was found on. -/
structure StringLiteral where
  text : Text
  line : Nat
  deriving Repr, DecidableEq

/-- Anything a reader finds in a document. -/
inductive Item where
  | comment (c : Comment)
  | string (s : StringLiteral)
  deriving Repr, DecidableEq

namespace Item

def lastLine : Item → Nat
  | .comment c => c.endLine
  | .string s => s.line

def text : Item → Text
  | .comment c => c.text
  | .string s => s.text

def comment? : Item → Option Comment
  | .comment c => some c
  | .string _ => none

def string? : Item → Option StringLiteral
  | .comment _ => none
  | .string s => some s

end Item

end LicenseText
