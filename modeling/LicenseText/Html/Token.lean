import LicenseText.Text.Basic

/-!
# Tokens of an HTML document

The tokens carry what a reader of comments and text needs to know: of a tag its name
and whether it closes itself, but no attributes, and of a document type only that it
is there. Text arrives in chunks. A token has the line on which the tokenizer stands
when it delivers it.
-/

namespace LicenseText

namespace Html

inductive Token where
  | text (chunk : Text)
  | comment (raw : Text)
  | startTag (name : Text) (selfClosing : Bool)
  | endTag (name : Text)
  | documentType
  /-- A character U+0000 between tags, which is no text. -/
  | null
  /-- The document departs from the grammar here, and is read all the same. -/
  | malformed
  | endOfDocument
  deriving Repr, DecidableEq

/-- A token and the line on which the tokenizer stood behind it. -/
structure LocatedToken where
  token : Token
  line : Nat
  deriving Repr, DecidableEq

/-- The ways to read text in which not every `<` opens a tag. -/
inductive RawKind where
  /-- References are decoded, and only the element's end tag is markup. -/
  | rcdata
  /-- Only the element's end tag is markup. -/
  | rawtext
  /-- A script, in which `<!--` escapes what follows. -/
  | script
  /-- The escaped part of a script. -/
  | escaped
  /-- The part of an escaped script that lies in an inner script element. -/
  | doubleEscaped
  deriving Repr, DecidableEq

namespace RawKind

/-- How the content of an element is read that is not markup. -/
def ofElement? (name : Text) : Option RawKind :=
  [("script".toList, .script), ("style".toList, .rawtext), ("xmp".toList, .rawtext),
    ("iframe".toList, .rawtext), ("noembed".toList, .rawtext),
    ("noframes".toList, .rawtext), ("title".toList, .rcdata),
    ("textarea".toList, .rcdata)].lookup name

end RawKind

end Html

end LicenseText
