import LicenseText.CommandLine.Arguments
import LicenseText.Report.Json
import LicenseText.Report.Plain
import LicenseText.Report.Terminal
import LicenseText.Survey

/-!
# The command line

A run of the program on a file tree: what it writes and its exit code. The
configuration is looked for at the first path, or next to it if it is a file; switches
on the command line override it. The run fails with code one, and writes nothing, if
the configuration cannot be loaded, a type is asked for that has no syntax, there are no
files, or a JSON report is asked for and the path of a file is no text; it writes its
report and ends with code one if some document was refused.
Misuse ends it with code two.
-/

namespace LicenseText

/-- What a run leaves behind. -/
structure Outcome where
  exitCode : Nat
  output : Text
  deriving Repr, DecidableEq

namespace CommandLine

def usage : Text :=
  ("Extract comments and strings from source files and isolate license-relevant text\n\n"
    ++ "Usage: license-literals [OPTIONS] [PATHS]...\n\n"
    ++ "      --config <CONFIG>   read this configuration file\n"
    ++ "      --mime <MIME>       treat every file as this type\n"
    ++ "      --no-strings        extract comments only\n"
    ++ "      --no-collapse       keep neighbouring comments apart\n"
    ++ "      --report <FORMAT>   terminal, json or text\n"
    ++ "      --relevant-only     with --report text, print relevant text only\n"
    ++ "  -v, --verbose           show every file\n"
    ++ "  -q, --quiet             print the counts only\n"
    ++ "  -h, --help              print this help\n"
    ++ "  -V, --version           print the version\n").toList

/-- The path at which the configuration is looked for. -/
def configRoot (tree : FileTree) (paths : List Bytes) : Bytes :=
  match paths with
  | [] => [Path.dot]
  | path :: _ => if tree.isFile path then Path.parent path else path

/-- A configuration with the switches of the command line. -/
def override (arguments : Arguments) (config : Config) : Config :=
  { config with
    extract := { config.extract with
      includeStrings := config.extract.includeStrings && !arguments.noStrings
      joinComments := config.extract.joinComments && !arguments.noJoining } }

/-- A run that fails before it has written anything. -/
def failure : Outcome := ⟨1, []⟩

/-- The report in the form that is asked for, if the reports have that form. -/
def render? (color : Bool) (arguments : Arguments) (reports : List Report) : Option Text :=
  match arguments.report.getD .terminal with
  | .terminal => some (Report.terminalText arguments.verbose arguments.quiet color reports)
  | .json => Report.jsonText? reports
  | .text => some (Report.plainText arguments.relevantOnly reports)

/-- The type that is forced upon all files, or a mistake if it has no syntax. -/
def forcedType (arguments : Arguments) : Except Unit (Option FileType) :=
  match arguments.mime.map FileType.ofMime with
  | none => .ok none
  | some .unknown => .error ()
  | some type => .ok (some type)

/-- The reports of a scan, or nothing if it fails before there are any. -/
def reports? (tree : FileTree) (arguments : Arguments) : Option (List Report) := do
  let root := configRoot tree arguments.paths
  let config ← (Config.load tree root arguments.config).toOption
  let forced ← (forcedType arguments).toOption
  let survey : Survey := ⟨override arguments config, forced⟩
  let files := survey.files tree arguments.paths
  if files.isEmpty then none else some (files.map (survey.report tree))

def scan (tree : FileTree) (color : Bool) (arguments : Arguments) : Outcome :=
  match reports? tree arguments with
  | none => failure
  | some reports =>
    match render? color arguments reports with
    | none => failure
    | some output =>
      { exitCode := if reports.any fun report => report.status.isFailed then 1 else 0
        output := output }

def run (tree : FileTree) (color : Bool) (arguments : List Bytes) : Outcome :=
  match Request.ofArguments arguments with
  | .scan arguments => scan tree color arguments
  | .help => ⟨0, usage⟩
  | .version => ⟨0, programName ++ ' ' :: programVersion ++ ['\n']⟩
  | .misuse => ⟨2, []⟩

end CommandLine

end LicenseText
