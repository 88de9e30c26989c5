import LicenseText.Text.Case

/-!
# Relevant literals

A literal is license-relevant when one of four triggers occurs in it, in whatever
letter case. The literals of a file are divided into the relevant and the other ones;
each literal goes to one of two texts, in which it is followed by a line feed.
-/

namespace LicenseText

/-- What makes a literal relevant. -/
def triggers : List Text :=
  ["licen".toList, "copyright".toList, "(c)".toList, "public domain".toList]

def isRelevant (literal : Text) : Bool :=
  triggers.any fun trigger => Text.contains trigger literal.lowerAscii

structure Division where
  relevant : Text
  other : Text
  deriving Repr, DecidableEq

namespace Division

/-- The literals, each followed by a line feed. -/
def blob (literals : List Text) : Text := literals.flatMap fun literal => literal ++ ['\n']

def hasRelevant (division : Division) : Bool := !division.relevant.isEmpty

end Division

def divide (literals : List Text) : Division where
  relevant := Division.blob (literals.filter isRelevant)
  other := Division.blob (literals.filter fun literal => !isRelevant literal)

end LicenseText
