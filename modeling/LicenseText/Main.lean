import LicenseText.CommandLine

/-!
# The program

The command line on the file system of the machine. What the arguments name is copied
into a file tree, the run works on that tree, and its output is written. Only the
parts of the file system are copied that a run can ask for: the paths given, the
configurations, and what links lead to. The machine hands out names and arguments as
texts, so the byte strings that occur here all spell one.
-/

namespace LicenseText

def bytesOf (s : String) : Bytes := Text.bytes s.toList

def placeOf (path : String) : Place := Path.components (bytesOf path)

def pathOf (place : Place) : Bytes := place.flatMap fun name => Path.slash :: name

/-- A tree with a part of the machine's files, and the places copied so far. -/
structure Copy where
  top : Node
  copied : List Place

namespace Copy

def put (copy : Copy) (place : Place) (node : Node) : Copy :=
  { copy with top := copy.top.put place node }

/-- Puts a folder into the copy that is not there yet. -/
def putFolder (copy : Copy) (place : Place) (size : Nat) : Copy :=
  if (copy.top.at? place).isSome then copy else copy.put place (.folder size [])

end Copy

/-- The place in the form in which the machine knows it. -/
def machinePath (place : Place) :=
  (IO.FS.DirEntry.mk "/" (String.ofList (Bytes.shown (pathOf place)))).path

/-- The number of bytes that the machine keeps at a place. -/
def sizeAt (place : Place) : IO Nat := do
  try
    return (← (machinePath place).metadata).byteSize.toNat
  catch _ => return 0

/-- What stands at a place of the machine, if anything; a link is not followed. -/
def kindAt (place : Place) : IO (Option IO.FS.FileType) := do
  try
    return some (← (machinePath place).symlinkMetadata).type
  catch _ => return none

/-- The place that a link at the given place leads to, if it leads anywhere. -/
def targetOf (place : Place) : IO (Option Place) := do
  try
    return some (placeOf (← IO.FS.realPath (machinePath place)).toString)
  catch _ => return none

/-- Copies what stands at a place, folders with their contents. Hidden entries of
folders, and links that lead nowhere, are not copied. At most `depth` steps are taken
into folders and links. -/
def copyAt (depth : Nat) (copy : Copy) (place : Place) : IO Copy := do
  match depth with
  | 0 => return copy
  | depth + 1 =>
    if copy.copied.contains place then return copy
    let copy := { copy with copied := place :: copy.copied }
    match ← kindAt place with
    | some .file =>
      try
        return copy.put place (.file (← IO.FS.readBinFile (machinePath place)))
      catch _ => return copy
    | some .dir =>
      let mut copy := copy.putFolder place (← sizeAt place)
      try
        for entry in ← (machinePath place).readDir do
          let name := bytesOf entry.fileName
          unless isHidden name do
            copy ← copyAt depth copy (place ++ [name])
        return copy
      catch _ => return copy
    | some .symlink =>
      match ← targetOf place with
      | none => return copy
      | some target => copyAt depth (copy.put place (.link (pathOf target))) target
    | _ => return copy

/-- Copies what a path leads to, and the links on the way. -/
def copyPath (copy : Copy) (here : Place) (steps : List Bytes) : IO Copy := do
  match steps with
  | [] => copyAt 1000 copy here
  | step :: rest =>
    if step = [Path.dot] then copyPath copy here rest
    else if step = [Path.dot, Path.dot] then copyPath copy here.dropLast rest
    else
      let place := here ++ [step]
      match ← kindAt place with
      | some .symlink =>
        match ← targetOf place with
        | none => return copy
        | some target =>
          copyPath (copy.put place (.link (pathOf target))) target rest
      | some .dir => copyPath (copy.putFolder place (← sizeAt place)) place rest
      | some _ => if rest.isEmpty then copyAt 1000 copy place else return copy
      | none => return copy

def treeFor (arguments : List Bytes) : IO FileTree := do
  let current := placeOf (← IO.currentDir).toString
  let home := (← IO.getEnv "HOME").map bytesOf
  let paths := match Request.ofArguments arguments with
    | .scan read =>
      read.paths ++ read.config.toList
        ++ read.paths.flatMap (fun path =>
          [Config.projectPath path, Config.projectPath (Path.parent path)])
        ++ (home.map Config.homePath).toList
    | _ => []
  let mut copy : Copy := ⟨Node.put .newFolder current .newFolder, []⟩
  for path in paths do
    copy ← copyPath copy (if Path.isAbsolute path then [] else current) (Path.steps path)
  return ⟨copy.top, current, home⟩

end LicenseText

open LicenseText in
def main (arguments : List String) : IO UInt32 := do
  let arguments := arguments.map bytesOf
  let output ← IO.getStdout
  let outcome := CommandLine.run (← treeFor arguments) (← output.isTty) arguments
  output.putStr (String.ofList outcome.output)
  output.flush
  return outcome.exitCode.toUInt32
