import LicenseText.FileType
import LicenseText.Text.Utf8

/-!
# Reports

The report on one file. It tells the type of the file, the literals found in it, how
they divide into relevant and other text, the comment that is most likely the license
header, and how the scan of the file went.
-/

namespace LicenseText

/-- How the scan of a file went. -/
inductive Status where
  /-- There is relevant text. -/
  | relevant
  /-- There is no relevant text. -/
  | clean
  /-- The type of the file has no syntax. -/
  | unsupported
  /-- The file was not read, for the given reason. -/
  | skipped (reason : Text)
  /-- The XML reader refused the document, for the given reason. -/
  | failed (reason : Text)
  deriving Repr, DecidableEq

namespace Status

def describe : Status → Text
  | .relevant => "relevant".toList
  | .clean => "clean".toList
  | .unsupported => "unsupported".toList
  | .skipped reason => "skipped (".toList ++ reason ++ [')']
  | .failed reason => "failed (".toList ++ reason ++ [')']

/-- Whether the file was not read. -/
def isSkipped : Status → Bool
  | .skipped _ => true
  | _ => false

/-- Whether the document was refused. -/
def isFailed : Status → Bool
  | .failed _ => true
  | _ => false

end Status

structure Report where
  path : Bytes
  type : FileType
  literals : List Text
  relevant : Text
  other : Text
  header : Option Text
  status : Status
  deriving Repr, DecidableEq

namespace Report

/-- A report on a file in which nothing was found. -/
def empty (path : Bytes) (type : FileType) (status : Status) : Report :=
  ⟨path, type, [], [], [], none, status⟩

end Report

end LicenseText
