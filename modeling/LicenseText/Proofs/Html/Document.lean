import Mathlib.Data.List.Chain
import LicenseText.Html.Reader
import LicenseText.Proofs.Markup

/-!
# Documents put together from nodes

A document is a list of nodes: comments, text, and tags without attributes. `write` gives
the characters of a node, and `itemsBehind` what a reader is to find in the nodes behind a
text.
-/

namespace LicenseText

namespace Html

inductive Node where
  | comment (inside : Text)
  | text (raw : Text)
  | startTag (name : Text)
  | endTag (name : Text)
  deriving Repr, DecidableEq

/-- A tag name of ASCII letters and digits, with a letter in front. -/
def IsName (name : Text) : Prop :=
  name.head?.any Char.isAlpha = true ∧ name.all Char.isAlphanum = true

instance (name : Text) : Decidable (IsName name) :=
  inferInstanceAs (Decidable (_ ∧ _))

/-- The elements whose content is no markup. -/
def rawElements : List Text :=
  ["script".toList, "style".toList, "xmp".toList, "iframe".toList, "noembed".toList,
    "noframes".toList, "title".toList, "textarea".toList]

/-- The text has no character that the tokenizer replaces. -/
def IsPlain (t : Text) : Prop := '\x00' ∉ t ∧ '\r' ∉ t

instance (t : Text) : Decidable (IsPlain t) := inferInstanceAs (Decidable (_ ∧ _))

theorem isPlain_cons {c : Char} {t : Text} (h : IsPlain (c :: t)) :
    c ≠ '\x00' ∧ c ≠ '\r' ∧ IsPlain t := by
  obtain ⟨hnull, hreturn⟩ := h
  rw [List.mem_cons, not_or] at hnull hreturn
  exact ⟨Ne.symm hnull.1, Ne.symm hreturn.1, hnull.2, hreturn.2⟩

/-- Nothing in the text ends a comment that the text stands in, and none of its characters
is replaced. -/
structure IsCommentText (inside : Text) : Prop where
  plain : IsPlain inside
  opening : ¬['>'] <+: inside
  dashedOpening : ¬['-', '>'] <+: inside
  ending : ¬['-', '-', '>'] <:+: inside
  bangEnding : ¬['-', '-', '!', '>'] <:+: inside

namespace Node

def write : Node → Text
  | comment inside => ['<', '!', '-', '-'] ++ inside ++ ['-', '-', '>']
  | text raw => Markup.escape raw
  | startTag name => ['<'] ++ name ++ ['>']
  | endTag name => ['<', '/'] ++ name ++ ['>']

theorem write_comment (inside : Text) :
    (comment inside).write = '<' :: (['!', '-', '-'] ++ inside ++ ['-', '-', '>']) := rfl

/-- A comment is neither an instruction nor ended by what stands in it, and a tag does not
change how the text behind it is read. -/
def Fits : Node → Prop
  | comment inside => IsPlain inside ∧ ¬['?'] <+: inside ∧ ¬['>'] <+: inside ∧
      ¬['-', '>'] <+: inside ∧ ¬['-', '-', '>'] <:+: inside ∧
      ¬['-', '-', '!', '>'] <:+: inside
  | text raw => IsPlain raw
  | startTag name => IsName name ∧ name.map Char.toLower ∉ rawElements
  | endTag name => IsName name

instance (node : Node) : Decidable node.Fits :=
  match node with
  | comment inside => inferInstanceAs (Decidable (IsPlain inside ∧ ¬['?'] <+: inside ∧
      ¬['>'] <+: inside ∧ ¬['-', '>'] <+: inside ∧ ¬['-', '-', '>'] <:+: inside ∧
      ¬['-', '-', '!', '>'] <:+: inside))
  | text raw => inferInstanceAs (Decidable (IsPlain raw))
  | startTag name =>
    inferInstanceAs (Decidable (IsName name ∧ name.map Char.toLower ∉ rawElements))
  | endTag name => inferInstanceAs (Decidable (IsName name))

theorem Fits.isCommentText {inside : Text} (h : (comment inside).Fits) :
    IsCommentText inside := by
  obtain ⟨hplain, -, hopening, hdashed, hending, hbang⟩ := h
  exact ⟨hplain, hopening, hdashed, hending, hbang⟩

/-- A run of text. Two such runs in a row would be one. -/
def isText : Node → Bool
  | text _ => true
  | _ => false

/-- The item that a node behind `before` amounts to, if any. -/
def itemBehind? (before : Text) : Node → Option Item
  | comment inside => some (.comment (Markup.commentBehind before inside))
  | text raw => (Markup.literalBehind? before raw).map .string
  | startTag _ | endTag _ => none

end Node

def document (nodes : List Node) : Text := nodes.flatMap Node.write

/-- The items of the nodes behind `before`. -/
def itemsBehind (before : Text) : List Node → List Item
  | [] => []
  | node :: rest => (node.itemBehind? before).toList ++ itemsBehind (before ++ node.write) rest

/-- The nodes can be told apart in the document. -/
structure WellFormed (nodes : List Node) : Prop where
  fits : ∀ node ∈ nodes, node.Fits
  separate : nodes.IsChain fun node next => ¬(node.isText ∧ next.isText)
  unmarked : (document nodes).head? ≠ some '\uFEFF'

end Html

end LicenseText
