import LicenseText.Html.Tokenizer
import LicenseText.Markup

/-!
# Reading an HTML document

Comments are the comments of the document, and each run of text between other tokens
is one string. The chunks of a run are held back until it ends; its line is found from
the first chunk, by going back over the line feeds in that chunk.

Instructions reach the reader as comments that start with a question mark. That mark
is removed, and with it the one at the end.
-/

namespace LicenseText

namespace Html

/-- The text of a comment token without the question marks of an instruction. -/
def instructionInside (raw : Text) : Text :=
  match raw with
  | '?' :: rest => (['?'].isSuffixOf? rest).getD rest
  | _ => raw

/-- The tokens of a document collected in part. -/
structure Collector where
  /-- The run of text that has begun, reversed. -/
  held : Text
  /-- The line on which the run starts. -/
  heldLine : Nat
  /-- The items found, newest first. -/
  found : List Item
  deriving Repr, DecidableEq

namespace Collector

def start : Collector := ⟨[], 1, []⟩

/-- Adds a chunk behind which the tokenizer stands on `line`. -/
def hold (collector : Collector) (chunk : Text) (line : Nat) : Collector :=
  { collector with
    held := chunk.reverse ++ collector.held
    heldLine :=
      if collector.held.isEmpty then line - Text.breaks chunk else collector.heldLine }

/-- Ends the run of text. -/
def flush (collector : Collector) : Collector :=
  { collector with
    held := []
    found := ((Markup.text? collector.held.reverse collector.heldLine).map
      Item.string).toList ++ collector.found }

/-- Adds a comment behind which the tokenizer stands on `line`. -/
def comment (collector : Collector) (raw : Text) (line : Nat) : Collector :=
  let inside := instructionInside raw
  { collector with
    found := .comment (Markup.comment inside (line - Text.breaks inside))
      :: collector.found }

def step (withStrings : Bool) (collector : Collector) (located : LocatedToken) :
    Collector :=
  match located.token with
  | .text chunk => if withStrings then collector.hold chunk located.line else collector
  | .null | .malformed => collector
  | .comment raw => collector.flush.comment raw located.line
  | .startTag _ _ | .endTag _ | .documentType | .endOfDocument => collector.flush

/-- All items, once there are no more tokens. -/
def finish (collector : Collector) : List Item := collector.flush.found.reverse

end Collector

def itemsOf (withStrings : Bool) (tokens : List LocatedToken) : List Item :=
  (tokens.foldl (Collector.step withStrings) .start).finish

/-- The items of a document in the order in which they stand. -/
def read (content : Text) (withStrings : Bool) : List Item :=
  itemsOf withStrings (tokens content)

end Html

end LicenseText
