import LicenseText.Config.Search
import LicenseText.FileTree.Walk
import LicenseText.License.Header
import LicenseText.Report

/-!
# Surveying files

The survey of a file never fails: whatever is wrong with the file becomes the status
of its report. A file that cannot be read, that is larger than the configuration
allows, or that is not UTF-8 is skipped, and its type is unknown. The others have the
type that is forced upon them, or else the type that is detected.
-/

namespace LicenseText

/-- What is to be done with each file: the configuration, and the type that is forced
upon all files, if any. -/
structure Survey where
  config : Config
  forced : Option FileType := none
  deriving Repr, DecidableEq

namespace Survey

/-- Why a file is skipped. -/
inductive Obstacle where
  | path (error : PathError)
  | tooLarge (limit : Nat)
  | notUtf8
  deriving Repr, DecidableEq

def Obstacle.message : Obstacle → Text
  | .path error => error.message
  | .tooLarge limit => "larger than ".toList ++ Text.ofNat limit ++ " bytes".toList
  | .notUtf8 => "not UTF-8".toList

def content (survey : Survey) (tree : FileTree) (path : Bytes) : Except Obstacle Text := do
  let node ← (tree.node path).mapError Obstacle.path
  let limit := survey.config.scan.maxFileBytes
  if limit < node.size then .error (.tooLarge limit)
  else
    let bytes ← (tree.read path).mapError Obstacle.path
    match decodeUtf8? bytes with
    | some text => .ok text
    | none => .error .notUtf8

def typeOf (survey : Survey) (path : Bytes) (content : Text) : FileType :=
  survey.forced.getD (FileType.detect survey.config.overrides path content)

/-- The status of a file of the given type whose literals were divided. -/
def statusOf (type : FileType) (division : Division) : Status :=
  if type = .unknown then .unsupported
  else if division.hasRelevant then .relevant
  else .clean

def reportOn (survey : Survey) (path : Bytes) (content : Text) : Report :=
  let type := survey.typeOf path content
  match itemsOrNone content type survey.config.extract with
  | .error error => .empty path type (.failed error.message)
  | .ok items =>
    let literals := items.map Item.text
    let division := divide literals
    { path := path
      type := type
      literals := literals
      relevant := division.relevant
      other := division.other
      header := header? items
      status := statusOf type division }

def report (survey : Survey) (tree : FileTree) (path : Bytes) : Report :=
  match survey.content tree path with
  | .error obstacle => .empty path .unknown (.skipped obstacle.message)
  | .ok content => survey.reportOn path content

def files (survey : Survey) (tree : FileTree) (roots : List Bytes) : List Bytes :=
  tree.files survey.config.scan.followLinks roots

end Survey

end LicenseText
