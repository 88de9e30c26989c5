import LicenseText.Text.Path

/-!
# File trees

A file tree holds files, folders and symbolic links. A place in it is told by the
names that lead there from the top, with all links resolved. `resolve` walks along a
path from a place: a link is replaced by its target, and at most forty links are
replaced on one walk. Names and paths may not be longer than the file system allows,
and the byte zero, which ends a path, cannot occur in one.
-/

namespace LicenseText

/-- A file, a folder with its named entries, or a link. The file system keeps a folder in a
number of bytes of its own. -/
inductive Node where
  | file (bytes : ByteArray)
  | folder (size : Nat) (entries : List (Bytes × Node))
  | link (target : Bytes)

/-- Why a path leads to nothing that can be read. -/
inductive PathError where
  | missing
  | notFolder
  | isFolder
  | tooLong
  | tooManyLinks
  | holdsNul
  deriving Repr, DecidableEq

namespace PathError

def message : PathError → Text
  | .missing => "No such file or directory (os error 2)".toList
  | .notFolder => "Not a directory (os error 20)".toList
  | .isFolder => "Is a directory (os error 21)".toList
  | .tooLong => "File name too long (os error 36)".toList
  | .tooManyLinks => "Too many levels of symbolic links (os error 40)".toList
  | .holdsNul => "file name contained an unexpected NUL byte".toList

end PathError

/-- The names that lead to a place from the top. -/
abbrev Place := List Bytes

namespace Node

open LicenseText.Path (dot)

def at? (node : Node) : Place → Option Node
  | [] => some node
  | name :: rest =>
    match node with
    | .folder _ entries => (entries.lookup name).bind fun child => child.at? rest
    | _ => none

/-- A new folder, which takes one block. -/
def newFolder : Node := .folder 4096 []

/-- Puts a node at a place, with new folders that lead there. A file or link on the way
stays what it is, and nothing is put behind it. -/
def put (node : Node) (place : Place) (new : Node) : Node :=
  match place with
  | [] => new
  | name :: rest =>
    match node with
    | .folder size entries =>
      let child := ((entries.lookup name).getD newFolder).put rest new
      .folder size ((entries.filter fun entry => entry.1 != name) ++ [(name, child)])
    | other => other

def size : Node → Nat
  | .file bytes => bytes.size
  | .folder size _ => size
  | .link target => target.length

def longestName : Nat := 255

/-- The place reached from `here` along the given steps, where `links` more links may be
replaced. -/
def resolve (top : Node) (links : Nat) (here : Place) (steps : List Bytes) :
    Except PathError Place :=
  match steps with
  | [] => .ok here
  | name :: rest =>
    match top.at? here with
    | some (.folder _ entries) =>
      if name = [dot, dot] then top.resolve links here.dropLast rest
      else if name = [dot] then top.resolve links here rest
      else if longestName < name.length then .error .tooLong
      else
        match entries.lookup name with
        | none => .error .missing
        | some (.link target) =>
          match links with
          | 0 => .error .tooManyLinks
          | links + 1 =>
            top.resolve links (if Path.isAbsolute target then [] else here)
              (Path.steps target ++ rest)
        | some _ => top.resolve links (here ++ [name]) rest
    | _ => .error .notFolder
termination_by (links, steps.length)

end Node

/-- The number of links that may be replaced on one walk. -/
def maxLinks : Nat := 40

/-- A tree with the place where relative paths start, and the path of the user's home
folder. -/
structure FileTree where
  top : Node
  current : Place
  home : Option Bytes

namespace FileTree

open LicenseText.Path (dot)

def longestPath : Nat := 4095

/-- What is wrong with a path as such, wherever it leads. The empty path leads
nowhere. -/
def flaw? (path : Bytes) : Option PathError :=
  if path.any (· = 0) then some .holdsNul
  else if path.isEmpty then some .missing
  else if longestPath < path.length then some .tooLong
  else none

def origin (tree : FileTree) (path : Bytes) : Place :=
  if Path.isAbsolute path then [] else tree.current

def locate (tree : FileTree) (path : Bytes) : Except PathError Place :=
  match flaw? path with
  | some error => .error error
  | none => tree.top.resolve maxLinks (tree.origin path) (Path.steps path)

def node (tree : FileTree) (path : Bytes) : Except PathError Node := do
  let place ← tree.locate path
  match tree.top.at? place with
  | some node => .ok node
  | none => .error .missing

/-- The place of the entry that a path names, which may be a link. A path that ends with
a slash or with dots names what it leads to. -/
def locateEntry (tree : FileTree) (path : Bytes) : Except PathError Place :=
  let steps := Path.steps path
  match flaw? path, steps.getLast? with
  | some error, _ => .error error
  | none, none => tree.locate path
  | none, some name =>
    if name = [dot] ∨ name = [dot, dot] then tree.locate path
    else do
      let folder ← tree.top.resolve maxLinks (tree.origin path) steps.dropLast
      match tree.top.at? folder with
      | some (.folder _ _) => .ok (folder ++ [name])
      | _ => .error .notFolder

def holds (tree : FileTree) (path : Bytes) : Bool := (tree.node path).toBool

def isFile (tree : FileTree) (path : Bytes) : Bool :=
  match tree.node path with
  | .ok (.file _) => true
  | _ => false

def read (tree : FileTree) (path : Bytes) : Except PathError ByteArray := do
  match ← tree.node path with
  | .file bytes => .ok bytes
  | .folder _ _ => .error .isFolder
  | .link _ => .error .missing

end FileTree

end LicenseText
