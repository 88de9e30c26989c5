import LicenseText.FileType
import LicenseText.Text.Lines
import LicenseText.Text.Path

/-!
# Detecting the type of a file

The extension of a path is looked up among the overrides first, where even the
unknown type is an answer, and then among the known extensions. When neither has it, or
it is no text, the first line of the content is asked for the interpreter that it names.
-/

namespace LicenseText

namespace FileType

def extensions : List (Text × FileType) :=
  [("c".toList, .c), ("h".toList, .c),
    ("cc".toList, .cPlusPlus), ("cpp".toList, .cPlusPlus), ("cxx".toList, .cPlusPlus),
    ("c++".toList, .cPlusPlus), ("hh".toList, .cPlusPlus), ("hpp".toList, .cPlusPlus),
    ("hxx".toList, .cPlusPlus),
    ("java".toList, .java),
    ("html".toList, .html), ("htm".toList, .html), ("xhtml".toList, .html),
    ("xml".toList, .xml), ("xsd".toList, .xml), ("xsl".toList, .xml),
    ("xslt".toList, .xml), ("pom".toList, .xml), ("svg".toList, .xml),
    ("sgml".toList, .sgml), ("sgm".toList, .sgml),
    ("py".toList, .python), ("pyw".toList, .python),
    ("sh".toList, .shell), ("bash".toList, .shell), ("ksh".toList, .shell),
    ("zsh".toList, .shell),
    ("php".toList, .php), ("phtml".toList, .php)]

/-- The shells, by the names of their programs. -/
def shells : List Text :=
  ["sh".toList, "bash".toList, "dash".toList, "ksh".toList, "zsh".toList]

def ofInterpreter (interpreter : Text) : FileType :=
  if "python".toList.isPrefixOf interpreter then .python
  else if "php".toList.isPrefixOf interpreter then .php
  else if shells.contains interpreter then .shell
  else .unknown

/-- The type named by the interpreter line at the start of the content. The program is
the last word of the line, without the folders in front of it. -/
def ofInterpreterLine (content : Text) : FileType :=
  match content.lines.head?.bind fun line => "#!".toList.isPrefixOf? line.trim with
  | none => .unknown
  | some command =>
    let word := (Text.words command).getLast?.getD []
    ofInterpreter ((word.splitOn '/').getLast?.getD [])

/-- The types that a configuration gives to extensions. Of two entries for one
extension the later one counts. -/
abbrev Overrides := List (Text × FileType)

def Overrides.find? (overrides : Overrides) (extension : Text) : Option FileType :=
  overrides.reverse.lookup extension

/-- The extension of a path, if it has one that is a text. -/
def extensionText? (path : Bytes) : Option Text := (Path.extension? path).bind Bytes.text?

/-- The type of a file, by its path and then by its content. -/
def detect (overrides : Overrides) (path : Bytes) (content : Text) : FileType :=
  match (extensionText? path).map Text.lowerAscii with
  | none => ofInterpreterLine content
  | some extension =>
    match overrides.find? extension with
    | some type => type
    | none => (extensions.lookup extension).getD (ofInterpreterLine content)

end FileType

end LicenseText
