import LicenseText.Extraction
import LicenseText.License.Relevance

/-!
# The license header

The comment that is most likely the license header of a file. A comment with an SPDX
tag is the header at once; else it is the first of the comments in which most of the
keywords occur, if any occurs. Strings are code and are not considered.

The text for a classifier is the relevant text of a document, or the document itself
when nothing in it is relevant.
-/

namespace LicenseText

def spdxTag : Text := "spdx-license-identifier".toList

/-- The words that tend to occur in license headers. -/
def keywords : List Text :=
  ["source".toList, "free".toList, "under".toList, "use".toList, "copyright".toList,
    "grant".toList, "software".toList, "license".toList, "licence".toList,
    "agreement".toList, "distribute".toList, "redistribution".toList,
    "liability".toList, "rights".toList, "reserved".toList, "general".toList,
    "public".toList, "modify".toList, "modified".toList, "modification".toList,
    "permission".toList, "permitted".toList, "granted".toList, "distributed".toList,
    "notice".toList, "distribution".toList, "terms".toList, "freely".toList,
    "licensed".toList, "merchantability".toList, "warranty".toList,
    "redistributed".toList, "see".toList, "read".toList, "(c)".toList,
    "copying".toList, "legal".toList, "licensing".toList, "spdx".toList]

def keywordCount (text : Text) : Nat :=
  let lower := text.lower
  keywords.countP fun word => Text.contains word lower

def hasSpdxTag (text : Text) : Bool := Text.contains spdxTag text.lower

/-- A text and the number of keywords in it. -/
structure Candidate where
  text : Text
  count : Nat
  deriving Repr, DecidableEq

/-- The better of the best candidate so far and a text that comes after it. -/
def Candidate.better (best : Option Candidate) (text : Text) : Option Candidate :=
  let count := keywordCount text
  if (best.map Candidate.count).getD 0 < count then some ⟨text, count⟩ else best

/-- The header among texts, where `best` is the best one of those before them. -/
def headerFrom? (best : Option Candidate) : List Text → Option Text
  | [] => best.map Candidate.text
  | text :: rest =>
    if hasSpdxTag text then some text else headerFrom? (Candidate.better best text) rest

def header? (items : List Item) : Option Text :=
  headerFrom? none ((items.filterMap Item.comment?).map Comment.text)

def classifierText (content : Text) (type : FileType) (options : ExtractOptions) :
    Except ExtractError Text :=
  if content.trim.isEmpty then .ok []
  else
    (literalsOrNone content type options).map fun literals =>
      let division := divide literals
      if division.hasRelevant then division.relevant else content

end LicenseText
