import LicenseText.Report
import LicenseText.Report.Table
import LicenseText.Text.Blank
import LicenseText.Text.Lines

/-!
# The terminal report

A summary in a box, followed by tables of files: those that the XML reader refused,
those with relevant text, and, when asked for, all others. A table without files is
left out. A quiet report is one line of counts.

The status of each file puts it into one of five classes, which the counts count, and
into one of three groups, which the tables show.
-/

namespace LicenseText

/-- The name under which the program presents itself. -/
def programName : Text := "license-literals".toList

def programVersion : Text := "0.1.0".toList

inductive Emphasis where
  | green
  | yellow
  | red
  | bold
  | dimmed
  | boldGreen
  | boldRed
  deriving Repr, DecidableEq

namespace Emphasis

def code : Emphasis → Text
  | .green => "32".toList
  | .yellow => "33".toList
  | .red => "31".toList
  | .bold => ['1']
  | .dimmed => ['2']
  | .boldGreen => "1;32".toList
  | .boldRed => "1;31".toList

/-- An emphasised text, where the terminal shows colours. -/
def apply (emphasis : Emphasis) (color : Bool) (text : Text) : Text :=
  if color then "\x1b[".toList ++ emphasis.code ++ 'm' :: text ++ "\x1b[0m".toList
  else text

end Emphasis

def padRight (width : Nat) (text : Text) : Text :=
  text ++ List.replicate (width - text.length) ' '

def padLeft (width : Nat) (n : Nat) : Text :=
  List.replicate (width - (Text.ofNat n).length) ' ' ++ Text.ofNat n

def headingLimit : Nat := 60

/-- The first line of a text that is not blank, cut if it is long. -/
def firstLine (text : Text) : Text :=
  let line := ((text.lines.map Text.trim).find? fun line => !line.isEmpty).getD []
  if headingLimit < line.length then line.take headingLimit ++ ['…'] else line

namespace Report

/-! ## Counts and groups -/

/-- The number of reports with a status that passes a test. -/
def countStatus (test : Status → Bool) (reports : List Report) : Nat :=
  reports.countP fun report => test report.status

/-- The numbers of reports, overall and in each class. -/
structure Counts where
  total : Nat
  relevant : Nat
  clean : Nat
  unsupported : Nat
  skipped : Nat
  failed : Nat
  deriving Repr, DecidableEq

def counts (reports : List Report) : Counts where
  total := reports.length
  relevant := countStatus (· == .relevant) reports
  clean := countStatus (· == .clean) reports
  unsupported := countStatus (· == .unsupported) reports
  skipped := countStatus Status.isSkipped reports
  failed := countStatus Status.isFailed reports

def failedReports (reports : List Report) : List Report :=
  reports.filter fun report => report.status.isFailed

def relevantReports (reports : List Report) : List Report :=
  reports.filter fun report => report.status == .relevant

def otherReports (reports : List Report) : List Report :=
  reports.filter fun report => !(report.status == .relevant || report.status.isFailed)

/-! ## The types of relevant files -/

/-- The types of the relevant files with the number of files of each. -/
def typeCounts (reports : List Report) : List (FileType × Nat) :=
  FileType.all.filterMap fun type =>
    let count := (relevantReports reports).countP fun report => report.type == type
    if count = 0 then none else some (type, count)

/-- Whether `a` is listed before `b`: it has more files, or as many and a name that
sorts earlier. -/
def typePrecedes (a b : FileType × Nat) : Bool :=
  b.2 < a.2 || (a.2 == b.2 && a.1.name.sortsBefore b.1.name)

/-- A type's name without its general part. -/
def shortName (type : FileType) : Text :=
  ("text/".toList.isPrefixOf? type.name).getD type.name

def showTypeCount (entry : FileType × Nat) : Text :=
  shortName entry.1 ++ " (".toList ++ Text.ofNat entry.2 ++ [')']

/-- The two most frequent types of relevant files, or nothing if no file is relevant. -/
def typeSummary (reports : List Report) : Text :=
  let shown := ((typeCounts reports).mergeSort typePrecedes).take 2
  if shown.isEmpty then []
  else '[' :: ", ".toList.intercalate (shown.map showTypeCount) ++ [']']

/-! ## The parts of the report -/

def tableRow (report : Report) : List Cell :=
  [⟨report.path.shown, false⟩, ⟨report.type.name, false⟩,
    ⟨Text.ofNat report.literals.length, true⟩,
    ⟨Text.ofNat report.relevant.lines.length, true⟩,
    ⟨(report.header.map firstLine).getD [], false⟩,
    ⟨report.status.describe, false⟩]

def headings : List Cell :=
  [⟨"File".toList, false⟩, ⟨"Type".toList, false⟩, ⟨"Literals".toList, false⟩,
    ⟨"Relevant lines".toList, false⟩, ⟨"Header".toList, false⟩, ⟨"Status".toList, false⟩]

/-- A titled table of files, or nothing if there are no files. -/
def group (title description : Text) (reports : List Report) : Text :=
  if reports.isEmpty then []
  else
    ' ' :: title ++ ' ' :: description ++ "\n\n".toList
      ++ Table.render headings (reports.map tableRow) ++ ['\n']

def boxLine (text : Text) : Text :=
  " │  ".toList ++ padRight 48 text ++ " │\n".toList

def boxEdge (left right : Char) : Text :=
  ' ' :: left :: List.replicate 52 '─' ++ [right, '\n']

def boxCount (sign label : Text) (count : Nat) : Text :=
  sign ++ "  ".toList ++ padRight 16 label ++ ": ".toList ++ padLeft 4 count

def summaryBox (color : Bool) (reports : List Report) : Text :=
  let counts := counts reports
  boxEdge '┌' '┐'
    ++ " │  ".toList ++ Emphasis.bold.apply color (padRight 48 "SUMMARY".toList)
      ++ " │\n".toList
    ++ boxLine ("Files scanned      : ".toList ++ Text.ofNat counts.total)
    ++ boxLine (boxCount (Emphasis.green.apply color ['§']) "Relevant".toList
        counts.relevant ++ "  ".toList ++ typeSummary reports)
    ++ boxLine (boxCount ['·'] "Clean".toList counts.clean)
    ++ boxLine (boxCount ['·'] "Unsupported".toList counts.unsupported)
    ++ boxLine (boxCount (Emphasis.yellow.apply color ['⚠']) "Skipped".toList
        counts.skipped)
    ++ boxLine (boxCount (Emphasis.red.apply color ['✗']) "Failed".toList counts.failed)
    ++ boxEdge '└' '┘' ++ ['\n']

/-- The line of counts that is the whole of a quiet report. -/
def quietText (color : Bool) (reports : List Report) : Text :=
  let counts := counts reports
  "Files: ".toList ++ Text.ofNat counts.total
    ++ "  Relevant: ".toList ++ Emphasis.green.apply color (Text.ofNat counts.relevant)
    ++ "  Clean: ".toList ++ Text.ofNat counts.clean
    ++ "  Unsupported: ".toList
      ++ Emphasis.dimmed.apply color (Text.ofNat counts.unsupported)
    ++ "  Skipped: ".toList ++ Emphasis.yellow.apply color (Text.ofNat counts.skipped)
    ++ "  Failed: ".toList ++ Emphasis.red.apply color (Text.ofNat counts.failed)
    ++ ['\n']

def banner (color : Bool) : Text :=
  "\n ".toList ++ Emphasis.bold.apply color programName ++ " v".toList ++ programVersion
    ++ "\n\n".toList

def terminalText (verbose quiet color : Bool) (reports : List Report) : Text :=
  if quiet then quietText color reports
  else
    banner color ++ summaryBox color reports
      ++ group (Emphasis.boldRed.apply color "[FAILED]".toList)
        "Files the XML reader rejected:".toList (failedReports reports)
      ++ group (Emphasis.boldGreen.apply color "[LICENSE]".toList)
        "Files with license-relevant text:".toList (relevantReports reports)
      ++ if verbose then
          group (Emphasis.bold.apply color "[OTHER]".toList) "Remaining files:".toList
            (otherReports reports)
        else []

end Report

end LicenseText
