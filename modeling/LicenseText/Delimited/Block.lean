import LicenseText.Item
import LicenseText.Syntax
import LicenseText.Text.Lines

/-!
# Comments of a delimited language

A document is read line by line. Each line has lost the blanks at its ends and is not
empty. Outside a block, a line is a comment of its own when it starts with the line
prefix, or when it starts with the opening delimiter and the block closes on that
line; when the block stays open, its lines are held back until a line ends with the
closing delimiter. Inside a block, a line that starts with the opening delimiter
again and does not close the block is passed over.
-/

namespace LicenseText

/-- What becomes of a block comment that the document leaves open. -/
inductive OpenBlockPolicy where
  /-- It ends with the last line held back. -/
  | emit
  /-- It is dropped. -/
  | discard
  deriving Repr, DecidableEq

/-- The reading of a block comment: whether one is open, and its lines so far, the
latest first. -/
structure BlockState where
  inBlock : Bool
  held : List NumberedLine
  deriving Repr, DecidableEq

namespace BlockDelimiters

def undecorate (block : BlockDelimiters) (text : Text) : Text :=
  match block.interior.bind fun decoration => decoration.isPrefixOf? text with
  | some rest => Text.trim rest
  | none => text

/-- The comment's text when the block that was opened in front of `rest` closes on the
same line. A closing delimiter at the line's end counts before an earlier one. -/
def closedIn? (block : BlockDelimiters) (rest : Text) : Option Text :=
  match block.closing.isSuffixOf? rest with
  | some inside => some inside
  | none => Text.before? block.closing rest

end BlockDelimiters

namespace BlockState

def outside : BlockState := ⟨false, []⟩

def hold (state : BlockState) (number : Nat) (text : Text) : BlockState :=
  ⟨true, ⟨number, text⟩ :: state.held⟩

/-- The comment made of the lines held back. -/
def comment? (state : BlockState) : Option Comment :=
  match state.held.getLast?, state.held.head? with
  | some first, some last =>
    some (.written (state.held.reverse.map NumberedLine.text) first.number last.number)
  | _, _ => none

def feedInside (state : BlockState) (block : BlockDelimiters) (line : NumberedLine) :
    BlockState × Option Comment :=
  match block.closing.isSuffixOf? line.text with
  | some rest =>
    (outside, (state.hold line.number (block.undecorate (Text.trim rest))).comment?)
  | none =>
    if block.opening.isPrefixOf line.text then (state, none)
    else (state.hold line.number (block.undecorate line.text), none)

/-- Reads a line outside a block that has no line prefix. -/
def feedOutside (state : BlockState) (block : BlockDelimiters) (line : NumberedLine) :
    BlockState × Option Comment :=
  match block.opening.isPrefixOf? line.text with
  | none => (state, none)
  | some rest =>
    match block.closedIn? rest with
    | some inside => (state, some (.onLine (Text.trim inside) line.number))
    | none => (state.hold line.number (Text.trim rest), none)

/-- Reads a line: the state behind it and the comment that it completes. -/
def feed (delimiters : DelimitedSyntax) (state : BlockState) (line : NumberedLine) :
    BlockState × Option Comment :=
  if state.inBlock then
    match delimiters.block with
    | none => (state, none)
    | some block => state.feedInside block line
  else
    match delimiters.line.bind fun start => start.isPrefixOf? line.text with
    | some rest => (state, some (.onLine (Text.trim rest) line.number))
    | none =>
      match delimiters.block with
      | none => (state, none)
      | some block => state.feedOutside block line

/-- The comment that the end of the document completes. -/
def finish? (state : BlockState) : OpenBlockPolicy → Option Comment
  | .emit => if state.inBlock then state.comment? else none
  | .discard => none

end BlockState

end LicenseText
