import LicenseText.Text.Blank
import LicenseText.Text.Case

/-!
# File types

The closed set of file types with a known comment syntax, and `unknown` for all else.
Each type has one canonical MIME name and may be named in several ways: by one of its
MIME names, whatever their letter case and the blanks around them, or by the first
words of a description such as `C source, ASCII text`.
-/

namespace LicenseText

inductive FileType where
  | c
  | cPlusPlus
  | java
  | html
  | xml
  | sgml
  | python
  | shell
  | php
  | unknown
  deriving Repr, DecidableEq

namespace FileType

/-- The canonical MIME name. -/
def name : FileType → Text
  | .c => "text/x-c".toList
  | .cPlusPlus => "text/x-c++".toList
  | .java => "text/x-java".toList
  | .html => "text/html".toList
  | .xml => "text/xml".toList
  | .sgml => "text/sgml".toList
  | .python => "text/x-python".toList
  | .shell => "text/x-shellscript".toList
  | .php => "text/x-php".toList
  | .unknown => "unknown filetype".toList

def all : List FileType :=
  [.c, .cPlusPlus, .java, .html, .xml, .sgml, .python, .shell, .php, .unknown]

/-- The type with the given canonical name, letter for letter. -/
def ofName? (name : Text) : Option FileType := all.find? fun type => type.name == name

/-- The MIME names of each type, in lower case. -/
def mimeNames : List (Text × FileType) :=
  [("text/x-c".toList, .c), ("text/x-csrc".toList, .c), ("text/x-chdr".toList, .c),
    ("text/x-c++".toList, .cPlusPlus), ("text/x-c++src".toList, .cPlusPlus),
    ("text/x-c++hdr".toList, .cPlusPlus),
    ("text/x-java".toList, .java), ("text/x-java-source".toList, .java),
    ("text/html".toList, .html), ("application/xhtml+xml".toList, .html),
    ("text/xml".toList, .xml), ("application/xml".toList, .xml),
    ("text/sgml".toList, .sgml), ("application/sgml".toList, .sgml),
    ("text/x-python".toList, .python), ("text/x-script.python".toList, .python),
    ("text/x-shellscript".toList, .shell), ("application/x-sh".toList, .shell),
    ("text/x-sh".toList, .shell),
    ("text/x-php".toList, .php), ("application/x-php".toList, .php)]

/-- The type with the given MIME name; a name that is not listed means `unknown`. -/
def ofMime (mime : Text) : FileType :=
  (mimeNames.lookup mime.trim.lowerAscii).getD .unknown

/-- The openings of file descriptions and the types they tell. -/
def descriptions : List (Text × FileType) :=
  [("C++ source".toList, .cPlusPlus), ("C source".toList, .c),
    ("Java source".toList, .java), ("HTML document".toList, .html),
    ("XML 1.0 document".toList, .xml), ("SGML document".toList, .sgml),
    ("Python script".toList, .python), ("POSIX shell script".toList, .shell),
    ("PHP document".toList, .php), ("PHP script".toList, .php)]

/-- The type told by a description, which is `unknown` when no opening fits. -/
def ofDescription (description : Text) : FileType :=
  match descriptions.find? fun (opening, _) => opening.isPrefixOf description.trim with
  | some (_, type) => type
  | none => .unknown

end FileType

end LicenseText
