import LicenseText.Text.Path

/-!
# Command line arguments

The arguments are read from left to right, and the first one that decides ends the
reading: a mistake, or a request for help or for the version. Options may be given
once. The value of an option follows an equals sign or is the next argument, which
may not look like an option itself; short options may share one dash. Behind two
dashes everything is a path. An argument is a byte string; a path may be any, while the
names of options, and the values of all options but `config`, are texts.
-/

namespace LicenseText

inductive ReportFormat where
  | terminal
  | json
  | text
  deriving Repr, DecidableEq

namespace ReportFormat

def named? (name : Text) : Option ReportFormat :=
  [("terminal".toList, .terminal), ("json".toList, .json), ("text".toList, .text)].lookup
    name

end ReportFormat

inductive Switch where
  | noStrings
  | noJoining
  | relevantOnly
  | verbose
  | quiet
  | help
  | version
  deriving Repr, DecidableEq

namespace Switch

def long? (name : Text) : Option Switch :=
  [("no-strings".toList, .noStrings), ("no-collapse".toList, .noJoining),
    ("relevant-only".toList, .relevantOnly), ("verbose".toList, .verbose),
    ("quiet".toList, .quiet), ("help".toList, .help),
    ("version".toList, .version)].lookup name

def short? (letter : Char) : Option Switch :=
  [('v', .verbose), ('q', .quiet), ('h', .help), ('V', .version)].lookup letter

end Switch

/-- The options that have a value. -/
inductive Setting where
  | config
  | mime
  | report
  deriving Repr, DecidableEq

namespace Setting

def long? (name : Text) : Option Setting :=
  [("config".toList, .config), ("mime".toList, .mime), ("report".toList, .report)].lookup
    name

end Setting

structure Arguments where
  paths : List Bytes := []
  config : Option Bytes := none
  mime : Option Text := none
  report : Option ReportFormat := none
  noStrings : Bool := false
  noJoining : Bool := false
  relevantOnly : Bool := false
  verbose : Bool := false
  quiet : Bool := false
  deriving Repr, DecidableEq

inductive Request where
  | scan (arguments : Arguments)
  | help
  | version
  | misuse
  deriving Repr, DecidableEq

namespace Arguments

@[match_pattern] abbrev dash : UInt8 := 0x2D

/-- How the reading stands: it goes on, or it has come to a decision. -/
abbrev Reading := Except Request Arguments

/-- Adds a path, which may not be empty. -/
def addPath (arguments : Arguments) (path : Bytes) : Reading :=
  if path.isEmpty then .error .misuse
  else .ok { arguments with paths := arguments.paths ++ [path] }

/-- Turns a switch on that is not on yet. -/
def turnOn (arguments : Arguments) : Switch → Reading
  | .noStrings =>
    if arguments.noStrings then .error .misuse else .ok { arguments with noStrings := true }
  | .noJoining =>
    if arguments.noJoining then .error .misuse else .ok { arguments with noJoining := true }
  | .relevantOnly =>
    if arguments.relevantOnly then .error .misuse
    else .ok { arguments with relevantOnly := true }
  | .verbose =>
    if arguments.verbose then .error .misuse else .ok { arguments with verbose := true }
  | .quiet =>
    if arguments.quiet then .error .misuse else .ok { arguments with quiet := true }
  | .help => .error .help
  | .version => .error .version

def set (arguments : Arguments) (setting : Setting) (value : Bytes) : Reading :=
  match setting with
  | .config =>
    if arguments.config.isSome || value.isEmpty then .error .misuse
    else .ok { arguments with config := some value }
  | .mime =>
    match value.text? with
    | none => .error .misuse
    | some name =>
      if arguments.mime.isSome then .error .misuse
      else .ok { arguments with mime := some name }
  | .report =>
    match value.text?.bind ReportFormat.named? with
    | none => .error .misuse
    | some format =>
      if arguments.report.isSome then .error .misuse
      else .ok { arguments with report := some format }

/-- Turns on the switches whose letters share a dash. -/
def cluster (arguments : Arguments) : Bytes → Reading
  | [] => .ok arguments
  | letter :: rest =>
    match Switch.short? (Char.ofUInt8 letter) with
    | none => .error .misuse
    | some switch => do
      let arguments ← arguments.turnOn switch
      arguments.cluster rest

def isOption : Bytes → Bool
  | dash :: _ :: _ => true
  | _ => false

def readFrom (arguments : Arguments) : List Bytes → Reading
  | [] => .ok arguments
  | argument :: rest =>
    match argument with
    | [dash, dash] => rest.foldlM addPath arguments
    | dash :: dash :: long =>
      let name := long.takeWhile (· ≠ '='.toUInt8)
      let value? := long[name.length]?.map fun _ => long.drop (name.length + 1)
      let name? := Bytes.text? name
      match name?.bind Switch.long?, name?.bind Setting.long?, value? with
      | some switch, _, none => do
        let arguments ← arguments.turnOn switch
        arguments.readFrom rest
      | _, some setting, some value => do
        let arguments ← arguments.set setting value
        arguments.readFrom rest
      | _, some setting, none =>
        match rest with
        | [] => .error .misuse
        | value :: rest =>
          if isOption value then .error .misuse
          else do
            let arguments ← arguments.set setting value
            arguments.readFrom rest
      | _, _, _ => .error .misuse
    | dash :: letter :: letters => do
      let arguments ← arguments.cluster (letter :: letters)
      arguments.readFrom rest
    | path => do
      let arguments ← arguments.addPath path
      arguments.readFrom rest

end Arguments

namespace Request

/-- What the given arguments ask for. Without a path the present folder is scanned. -/
def ofArguments (arguments : List Bytes) : Request :=
  match Arguments.readFrom {} arguments with
  | .error request => request
  | .ok read => .scan { read with paths := if read.paths.isEmpty then [[Path.dot]] else read.paths }

end Request

end LicenseText
