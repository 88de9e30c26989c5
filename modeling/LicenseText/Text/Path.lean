import LicenseText.Text.Utf8

/-!
# Paths

A path is a byte string in which slashes separate the names. Repeated slashes count as
one, and a single dot stands for the place where it occurs, so neither adds a component.
-/

namespace LicenseText

namespace Path

@[match_pattern] abbrev slash : UInt8 := 0x2F

@[match_pattern] abbrev dot : UInt8 := 0x2E

/-- The names of a path, with the dots that mean the parent but not those that mean
the same place. -/
def components (path : Bytes) : List Bytes :=
  (path.splitOn slash).filter fun name => !name.isEmpty && name != [dot]

/-- The last name of a path, unless the path leads to a parent or has no names. -/
def fileName? (path : Bytes) : Option Bytes :=
  (components path).getLast?.filter (· != [dot, dot])

/-- What follows the last dot of the last name. A dot at the front of the name begins
no extension. -/
def extension? (path : Bytes) : Option Bytes := do
  let name ← fileName? path
  let reversed := name.reverse
  let behind := reversed.takeWhile (· ≠ dot)
  let front := reversed.drop (behind.length + 1)
  if front.isEmpty then none else some behind.reverse

def below (path name : Bytes) : Bytes :=
  if path.isEmpty || path.getLast? == some slash then path ++ name
  else path ++ slash :: name

/-- Removes, from the front of a reversed path, slashes and dots that add nothing. -/
def trimReversed : Bytes → Bytes
  | [slash] => [slash]
  | slash :: rest => trimReversed rest
  | dot :: slash :: rest => trimReversed (slash :: rest)
  | path => path

/-- The path in front of the last name, which is empty if there is none. -/
def parent (path : Bytes) : Bytes :=
  (trimReversed (path.reverse.dropWhile (· ≠ slash))).reverse

def isAbsolute (path : Bytes) : Bool := path.head? == some slash

/-- The steps to take along a path. A slash at the end is a step that stays in place,
which only a folder allows. -/
def steps (path : Bytes) : List Bytes :=
  (path.splitOn slash).filter (fun name => !name.isEmpty)
    ++ if path.getLast? = some slash then [[dot]] else []

end Path

end LicenseText
