import LicenseText.Delimited.Reader
import LicenseText.Html.Reader
import LicenseText.Item.Order
import LicenseText.Xml.Reader

/-!
# Extraction

The comments and string literals of a document, by the syntax of its file type. With
`joinComments` neighbouring comments are joined and the items stand in the order of
their last lines; without it they stand as they were found.

Two failures are possible: the file type has no syntax, or the XML reader refuses the
document. The lenient reading takes a document without a syntax as one without items.
-/

namespace LicenseText

structure ExtractOptions where
  includeStrings : Bool := true
  joinComments : Bool := true
  openBlock : OpenBlockPolicy := .emit
  deriving Repr, DecidableEq

/-- Why nothing can be extracted from a document. -/
inductive ExtractError where
  | unsupported (type : FileType)
  | markup (failure : Xml.Failure)
  deriving Repr, DecidableEq

namespace ExtractError

def message : ExtractError → Text
  | .unsupported type => "unsupported language: ".toList ++ type.name
  | .markup failure =>
    "markup parse error at byte ".toList ++ Text.ofNat failure.position ++ ": ".toList
      ++ failure.fault.message

end ExtractError

/-- The items of a document as its reader finds them. -/
def foundItems (content : Text) (type : FileType) (options : ExtractOptions) :
    Except ExtractError (List Item) :=
  match type.syntax? with
  | none => .error (.unsupported type)
  | some (.delimited delimiters) =>
    .ok (Delimited.read delimiters options.includeStrings options.openBlock content)
  | some (.markup .html) => .ok (Html.read content options.includeStrings)
  | some (.markup .xml) =>
    (Xml.read content options.includeStrings).mapError ExtractError.markup

def items (content : Text) (type : FileType) (options : ExtractOptions) :
    Except ExtractError (List Item) :=
  (foundItems content type options).map fun found =>
    if options.joinComments then arrange found else found

/-- The items of a document, of which there are none if its type has no syntax. -/
def itemsOrNone (content : Text) (type : FileType) (options : ExtractOptions) :
    Except ExtractError (List Item) :=
  match items content type options with
  | .error (.unsupported _) => .ok []
  | outcome => outcome

def literals (content : Text) (type : FileType) (options : ExtractOptions) :
    Except ExtractError (List Text) :=
  (items content type options).map (List.map Item.text)

/-- The texts of the items of a document, of which there are none if its type has no
syntax. -/
def literalsOrNone (content : Text) (type : FileType) (options : ExtractOptions) :
    Except ExtractError (List Text) :=
  (itemsOrNone content type options).map (List.map Item.text)

end LicenseText
