import LicenseText.Item

/-!
# Joining neighbouring comments

A run of line comments is found one comment at a time, though it is one remark. Here
comments that follow one another in a document are joined when the later one starts
no further than the line after the earlier one's end. The comments are taken from the
left: the group that is being joined takes in the next comment, or is finished and the
next comment starts another one.

Each comment carries its rank, its place in the order of discovery, and a group has
the rank of its last comment, which also decides its last line.
-/

namespace LicenseText

/-- A comment with its place in the order of discovery. -/
structure RankedComment (Line : Type := Nat) where
  rank : Nat
  comment : Comment Line
  deriving Repr, DecidableEq

def rankByPosition {Line : Type} (comments : List (Comment Line)) :
    List (RankedComment Line) :=
  comments.zipIdx.map fun (comment, position) => ⟨position, comment⟩

section Joining

variable {Line : Type} [LE Line] [DecidableLE Line] [Add Line] [OfNat Line 1]

/-- The groups of comments of which `current` is the first as far as it has been joined. -/
def joinFrom (current : RankedComment Line) :
    List (RankedComment Line) → List (RankedComment Line)
  | [] => [current]
  | next :: rest =>
    if current.comment.touches next.comment then
      joinFrom ⟨next.rank, current.comment.join next.comment⟩ rest
    else current :: joinFrom next rest

/-- The groups of neighbouring comments, each joined into one comment. -/
def joinRanked : List (RankedComment Line) → List (RankedComment Line)
  | [] => []
  | first :: rest => joinFrom first rest

/-- Joins neighbouring comments that carry no ranks. -/
def joinComments (comments : List (Comment Line)) : List (Comment Line) :=
  (joinRanked (rankByPosition comments)).map RankedComment.comment

end Joining

end LicenseText
