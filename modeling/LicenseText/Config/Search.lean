import LicenseText.Config
import LicenseText.FileTree

/-!
# Finding the configuration

The configuration is read from the first of these places that applies: the path given
on the command line, whether or not there is a file; the project's folder for it; the
one in the user's home folder. The latter two apply when the path leads anywhere. When
none applies, the configuration is the default one. A place that applies decides: what
is wrong with it is an error, and no later place is asked.
-/

namespace LicenseText

/-- What is wrong with the configuration at a path. -/
inductive ConfigError where
  | unreadable (path : Bytes)
  | invalid (path : Bytes)
  deriving Repr, DecidableEq

namespace ConfigError

/-- The description of an error, with the path shown as `show_` tells. -/
def messageWith (show_ : Bytes → Text) : ConfigError → Text
  | .unreadable path => "reading config ".toList ++ show_ path
  | .invalid path => "parsing config ".toList ++ show_ path

def message (error : ConfigError) : Text := error.messageWith Bytes.shown

end ConfigError

namespace Config

def projectPath (root : Bytes) : Bytes :=
  Path.below (Path.below root (Text.bytes ".license-literals".toList))
    (Text.bytes "config.toml".toList)

def homePath (home : Bytes) : Bytes :=
  Path.below
    (Path.below (Path.below home (Text.bytes ".config".toList))
      (Text.bytes "license-literals".toList))
    (Text.bytes "config.toml".toList)

/-- The path of the configuration that decides, if any applies. -/
def candidate? (tree : FileTree) (root : Bytes) (override? : Option Bytes) :
    Option Bytes :=
  override?.orElse fun _ =>
    ([projectPath root] ++ (tree.home.map homePath).toList).find? tree.holds

def readAt (tree : FileTree) (path : Bytes) : Except ConfigError Config :=
  match (tree.read path).toOption.bind decodeUtf8? with
  | none => .error (.unreadable path)
  | some document =>
    match ofDocument? document with
    | none => .error (.invalid path)
    | some config => .ok config

def load (tree : FileTree) (root : Bytes) (override? : Option Bytes) :
    Except ConfigError Config :=
  match candidate? tree root override? with
  | none => .ok {}
  | some path => readAt tree path

end Config

end LicenseText
