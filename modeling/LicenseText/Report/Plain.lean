import LicenseText.Report

/-!
# The text report

The extracted text of each file behind a line with the file's path. Files without a
syntax, and files that were skipped or refused, are left out. When only relevant text
is asked for, files without it are left out as well; otherwise the relevant and the
other text are introduced by a line each.
-/

namespace LicenseText

namespace Report

def hasSection (relevantOnly : Bool) (report : Report) : Bool :=
  (report.status == .relevant || report.status == .clean)
    && !(relevantOnly && report.relevant.isEmpty)

/-- A text behind a line that introduces it, or nothing if the text is empty. -/
def titled (title blob : Text) : Text :=
  if blob.isEmpty then [] else title ++ '\n' :: blob

def plainSection (relevantOnly : Bool) (report : Report) : Text :=
  "==> ".toList ++ report.path.shown ++ " <==\n".toList
    ++ (if relevantOnly then report.relevant
      else
        titled "--- license-relevant".toList report.relevant
          ++ titled "--- other".toList report.other)
    ++ ['\n']

def plainText (relevantOnly : Bool) (reports : List Report) : Text :=
  (reports.filter (hasSection relevantOnly)).flatMap (plainSection relevantOnly)

end Report

end LicenseText
