import Mathlib.Data.List.Chain
import LicenseText.Proofs.Markup
import LicenseText.Xml.Reader

/-!
# Documents put together from nodes

A document is a list of nodes: comments, text, character data, instructions and tags.
`write` gives the characters of a node, and `itemsBehind` what a reader is to find in the
nodes behind a text.
-/

namespace LicenseText

namespace Xml

inductive Node where
  | comment (inside : Text)
  | text (raw : Text)
  | characterData (inside : Text)
  | instruction (inside : Text)
  | tag (inside : Text)
  deriving Repr, DecidableEq

/-- What follows `<!` at the start of character data. -/
def characterDataStart : Text := ['[', 'C', 'D', 'A', 'T', 'A', '[']

namespace Node

def write : Node → Text
  | comment inside => ['<', '!', '-', '-'] ++ inside ++ ['-', '-', '>']
  | text raw => Markup.escape raw
  | characterData inside => ['<', '!'] ++ characterDataStart ++ inside ++ [']', ']', '>']
  | instruction inside => ['<', '?'] ++ inside ++ ['?', '>']
  | tag inside => ['<'] ++ inside ++ ['>']

/-- A node does not hold the delimiter that ends it, and a tag is no other markup. -/
def Fits : Node → Prop
  | comment inside => ¬['-', '-', '>'] <:+: inside
  | text _ => True
  | characterData inside => ¬[']', ']', '>'] <:+: inside
  | instruction inside => ¬['?', '>'] <:+: inside ∧ inside.head? ≠ some '>'
  | tag inside => '>' ∉ inside ∧ '"' ∉ inside ∧ '\'' ∉ inside ∧
      inside.head? ≠ some '!' ∧ inside.head? ≠ some '?'

instance (node : Node) : Decidable node.Fits :=
  match node with
  | comment inside => inferInstanceAs (Decidable ¬['-', '-', '>'] <:+: inside)
  | text _ => inferInstanceAs (Decidable True)
  | characterData inside => inferInstanceAs (Decidable ¬[']', ']', '>'] <:+: inside)
  | instruction inside => inferInstanceAs
      (Decidable (¬['?', '>'] <:+: inside ∧ inside.head? ≠ some '>'))
  | tag inside => inferInstanceAs (Decidable ('>' ∉ inside ∧ '"' ∉ inside ∧ '\'' ∉ inside ∧
      inside.head? ≠ some '!' ∧ inside.head? ≠ some '?'))

/-- A run of text. Two such runs in a row would be one. -/
def isText : Node → Bool
  | text _ => true
  | _ => false

/-- The item that a node behind `before` amounts to, if any. -/
def itemBehind? (before : Text) : Node → Option Item
  | comment inside => some (.comment (Markup.commentBehind before inside))
  | instruction inside => some (.comment (Markup.commentBehind before inside))
  | text raw => (Markup.literalBehind? before raw).map .string
  | characterData inside => (Markup.literalBehind? before inside).map .string
  | tag _ => none

end Node

def document (nodes : List Node) : Text := nodes.flatMap Node.write

/-- The items of the nodes behind `before`. -/
def itemsBehind (before : Text) : List Node → List Item
  | [] => []
  | node :: rest => (node.itemBehind? before).toList ++ itemsBehind (before ++ node.write) rest

/-- The nodes can be told apart in the document. -/
structure WellFormed (nodes : List Node) : Prop where
  fits : ∀ node ∈ nodes, node.Fits
  separate : nodes.IsChain fun node next => ¬(node.isText ∧ next.isText)
  unmarked : (document nodes).head? ≠ some '\uFEFF'

end Xml

end LicenseText
