import LicenseText.Report

/-!
# The JSON report

The reports as an array of objects, indented by two spaces. An empty array stands on
one line. Characters beyond ASCII are written as they are; quotes, backslashes and
control characters are escaped. A path that is no text has no place in a string, so there
is no report then.
-/

namespace LicenseText

/-- The JSON values that occur in a report. -/
inductive JsonValue where
  | null
  | string (text : Text)
  | array (elements : List JsonValue)
  | object (members : List (Text × JsonValue))

namespace JsonValue

def escape (c : Char) : Text :=
  if c = '"' then ['\\', '"']
  else if c = '\\' then ['\\', '\\']
  else if c = '\x08' then ['\\', 'b']
  else if c = '\x0c' then ['\\', 'f']
  else if c = '\n' then ['\\', 'n']
  else if c = '\r' then ['\\', 'r']
  else if c = '\t' then ['\\', 't']
  else if c.toNat < 0x20 then
    "\\u00".toList ++ [Nat.digitChar (c.toNat / 16), Nat.digitChar (c.toNat % 16)]
  else [c]

def quote (text : Text) : Text := '"' :: text.flatMap escape ++ ['"']

def newLine (indent : Nat) : Text := '\n' :: List.replicate indent ' '

/-- Items between brackets, each on a line of its own. -/
def enclose (opening closing : Char) (indent : Nat) (items : List Text) : Text :=
  if items.isEmpty then [opening, closing]
  else
    opening :: newLine (indent + 2)
      ++ (',' :: newLine (indent + 2)).intercalate items
      ++ newLine indent ++ [closing]

mutual

/-- A value whose lines are indented by `indent`. -/
def render (indent : Nat) : JsonValue → Text
  | .null => "null".toList
  | .string text => quote text
  | .array elements => enclose '[' ']' indent (renderAll (indent + 2) elements)
  | .object members => enclose '\x7b' '\x7d' indent (renderMembers (indent + 2) members)

def renderAll (indent : Nat) : List JsonValue → List Text
  | [] => []
  | value :: rest => value.render indent :: renderAll indent rest

def renderMembers (indent : Nat) : List (Text × JsonValue) → List Text
  | [] => []
  | (name, value) :: rest =>
    (quote name ++ ": ".toList ++ value.render indent) :: renderMembers indent rest

end

end JsonValue

namespace Status

def toJson : Status → JsonValue
  | .relevant => .string "relevant".toList
  | .clean => .string "clean".toList
  | .unsupported => .string "unsupported".toList
  | .skipped reason => .object [("skipped".toList, .string reason)]
  | .failed reason => .object [("failed".toList, .string reason)]

end Status

namespace Report

/-- A report as a JSON value, if its path is a text. -/
def toJson? (report : Report) : Option JsonValue :=
  report.path.text?.map fun path =>
    .object
      [("path".toList, .string path),
        ("mime".toList, .string report.type.name),
        ("literals".toList, .array (report.literals.map .string)),
        ("relevant".toList, .string report.relevant),
        ("other".toList, .string report.other),
        ("best_comment".toList, (report.header.map JsonValue.string).getD .null),
        ("status".toList, report.status.toJson)]

/-- The JSON report, if the paths of all reports are texts. -/
def jsonText? (reports : List Report) : Option Text :=
  (reports.mapM toJson?).map fun values =>
    JsonValue.render 0 (.array values) ++ ['\n']

end Report

end LicenseText
