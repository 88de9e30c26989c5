import LicenseText.Extraction
import LicenseText.FileType.Detection
import LicenseText.Toml.Document

/-!
# Configuration

A configuration has three sections. `extract` says what is extracted, `scan` limits
the files that are read, and `mime` gives file types to extensions. What a document
does not say keeps its default, and what it says beyond that is passed over; a value
of the wrong type makes the document invalid.

A section is a table. An array in its place lists the section's fields in their order,
and a date in its place says nothing.
-/

namespace LicenseText

structure ScanLimits where
  /-- Larger files are not read. -/
  maxFileBytes : Nat := 1024 * 1024
  /-- Whether links are followed below a root. -/
  followLinks : Bool := false
  deriving Repr, DecidableEq

/-- What a run of the program is told in its configuration. -/
structure Config where
  extract : ExtractOptions := {}
  scan : ScanLimits := {}
  /-- The entries of the section `mime`, each an extension and a MIME name. -/
  mime : List (Text × Text) := []
  deriving Repr, DecidableEq

namespace Config

open Toml (Value Entries)

/-- An extension without dots in front and in lower case. -/
def normalExtension (extension : Text) : Text :=
  Text.lowerAscii (extension.dropWhile (· = '.'))

/-- The types that the configuration gives to extensions. -/
def overrides (config : Config) : FileType.Overrides :=
  config.mime.map fun (extension, mime) => (normalExtension extension, .ofMime mime)

/-! ## Reading a document -/

def fields? (names : List Text) : Value → Option (List (Option Value))
  | .table _ entries => some (names.map fun name => entries.lookup name)
  | .array elements => some ((List.range names.length).map fun i => elements[i]?)
  | .tables elements =>
    some ((List.range names.length).map fun i => elements[i]?.map (.table .header))
  | .dateTime => some (names.map fun _ => none)
  | _ => none

/-- The value of a field, which is `default` where the document has none. -/
def fieldOr {α : Type} (default : α) (read? : Value → Option α) (value? : Option Value) :
    Option α :=
  match value? with
  | none => some default
  | some value => read? value

def boolean? : Value → Option Bool
  | .boolean b => some b
  | _ => none

def size? : Value → Option Nat
  | .integer (.ofNat n) => some n
  | _ => none

def string? : Value → Option Text
  | .string text => some text
  | _ => none

/-- Whether a value is a table or array without contents. -/
def isEmpty : Value → Bool
  | .table _ entries => entries.isEmpty
  | .array elements => elements.isEmpty
  | _ => false

def openBlockNamed? (name : Text) : Option OpenBlockPolicy :=
  [("emit".toList, .emit), ("discard".toList, .discard)].lookup name

/-- What to do with an open block. It is named by a string, or by the one key of a table
that holds nothing else. -/
def openBlock? : Value → Option OpenBlockPolicy
  | .string name => openBlockNamed? name
  | .table _ [(name, inner)] => if isEmpty inner then openBlockNamed? name else none
  | _ => none

def extract? (section_ : Value) : Option ExtractOptions := do
  let fields ← fields?
    ["include_strings".toList, "collapse_comments".toList, "unterminated".toList] section_
  let default : ExtractOptions := {}
  match fields with
  | [strings, joining, policy] =>
    some {
      includeStrings := ← fieldOr default.includeStrings boolean? strings
      joinComments := ← fieldOr default.joinComments boolean? joining
      openBlock := ← fieldOr default.openBlock openBlock? policy }
  | _ => none

def scan? (section_ : Value) : Option ScanLimits := do
  let fields ← fields? ["max_file_bytes".toList, "follow_links".toList] section_
  let default : ScanLimits := {}
  match fields with
  | [size, links] =>
    some {
      maxFileBytes := ← fieldOr default.maxFileBytes size? size
      followLinks := ← fieldOr default.followLinks boolean? links }
  | _ => none

/-- The section `mime`. A date in its place counts as one entry. The value of this entry
would be the text of the date, which is left out here: no date is a MIME name, and neither
is the empty text. -/
def mime? : Value → Option (List (Text × Text))
  | .table _ entries =>
    entries.mapM fun (extension, value) => (string? value).map fun mime => (extension, mime)
  | .dateTime => some [("$__toml_private_datetime".toList, [])]
  | _ => none

/-- The configuration that the entries of a document stand for. -/
def ofEntries? (entries : Entries) : Option Config := do
  let default : Config := {}
  some {
    extract := ← fieldOr default.extract extract? (entries.lookup "extract".toList)
    scan := ← fieldOr default.scan scan? (entries.lookup "scan".toList)
    mime := ← fieldOr default.mime mime? (entries.lookup "mime".toList) }

/-- The configuration in a document, if the document is valid. -/
def ofDocument? (document : Text) : Option Config :=
  (Toml.parse? document).bind ofEntries?

end Config

end LicenseText
