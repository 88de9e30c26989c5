import LicenseText.FileType

/-!
# The syntax of a file type

A delimited language marks its comments with a line prefix, with a pair of block
delimiters, or with both, and its strings with quote characters. Markup has a reader
of its own: the HTML reader serves SGML as well. A file type without a syntax is the
unknown one.
-/

namespace LicenseText

/-- The delimiters of a block comment. Lines inside the block may be decorated with
the prefix `interior`, which is no part of the comment. -/
structure BlockDelimiters where
  opening : Text
  interior : Option Text
  closing : Text
  deriving Repr, DecidableEq

/-- The comment and string syntax of a delimited language. -/
structure DelimitedSyntax where
  line : Option Text
  block : Option BlockDelimiters
  quotes : List Char
  deriving Repr, DecidableEq

inductive MarkupKind where
  | html
  | xml
  deriving Repr, DecidableEq

/-- How the documents of a file type are read. -/
inductive Syntax where
  | delimited (delimiters : DelimitedSyntax)
  | markup (kind : MarkupKind)
  deriving Repr, DecidableEq

namespace DelimitedSyntax

/-- Two slashes, and the slash and star of C. -/
def cLike : DelimitedSyntax where
  line := some "//".toList
  block := some ⟨"/*".toList, none, "*/".toList⟩
  quotes := ['"']

/-- The number sign, and strings in triple quotes standing as comments. -/
def python : DelimitedSyntax where
  line := some "#".toList
  block := some ⟨"\"\"\"".toList, none, "\"\"\"".toList⟩
  quotes := ['"', '\'']

/-- The number sign alone. -/
def shell : DelimitedSyntax where
  line := some "#".toList
  block := none
  quotes := ['"', '\'']

/-- Two slashes, and documentation blocks whose lines are decorated with stars. -/
def php : DelimitedSyntax where
  line := some "//".toList
  block := some ⟨"/**".toList, some "*".toList, "*/".toList⟩
  quotes := ['"', '\'']

end DelimitedSyntax

namespace FileType

def syntax? : FileType → Option Syntax
  | .c | .cPlusPlus | .java => some (.delimited .cLike)
  | .python => some (.delimited .python)
  | .shell => some (.delimited .shell)
  | .php => some (.delimited .php)
  | .html | .sgml => some (.markup .html)
  | .xml => some (.markup .xml)
  | .unknown => none

end FileType

end LicenseText
