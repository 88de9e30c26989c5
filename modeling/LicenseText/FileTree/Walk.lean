import LicenseText.FileTree

/-!
# Walking a file tree

The files below a folder are listed with the entries of each folder in the order of
their names, the contents of a folder standing where its name sorts. Entries whose
names are texts that start with a dot are left out, but a root is never left out.

A link is passed over unless links are followed; then it stands for what it leads to,
except that a link to a folder that is being walked is passed over too. A path leads
through no more than forty links, so no more than forty linked folders are entered one
inside the other. A folder that its path does not lead to is passed over, while a file
is listed by its path in any case.
-/

namespace LicenseText

/-- Whether a name is hidden. A name that is no text is never hidden, whatever byte it
starts with. -/
def isHidden (name : Bytes) : Bool :=
  match name.text? with
  | some text => text.head? == some '.'
  | none => false

/-- Whether the entry `a` may stand before the entry `b`. -/
def entryPrecedes (a b : Bytes × Node) : Bool := Bytes.sortsBefore a.1 b.1

namespace FileTree

/-- The files below a node, each by its path. The node stands at `place` and is called
`path`; `walked` holds the places of the folders around it, `links` is the number of
links to folders that may still be followed. -/
def filesBelow (tree : FileTree) (follow : Bool) (links : Nat) (walked : List Place)
    (place : Place) (path : Bytes) (node : Node) : List Bytes :=
  match node with
  | .file _ => [path]
  | .folder _ entries =>
    let walked := place :: walked
    if tree.holds path then
      (entries.mergeSort entryPrecedes).attach.flatMap fun ⟨(name, child), _⟩ =>
        if isHidden name then []
        else
          tree.filesBelow follow links walked (place ++ [name]) (Path.below path name) child
    else []
  | .link _ =>
    if follow then
      match tree.locate path with
      | .error _ => []
      | .ok target =>
        match tree.top.at? target with
        | some (.file _) => [path]
        | some (.folder size entries) =>
          if walked.contains target then []
          else
            match links with
            | 0 => []
            | links + 1 =>
              tree.filesBelow follow links walked target path (.folder size entries)
        | _ => []
    else []
termination_by (links, sizeOf node)
decreasing_by
  · rename_i member _
    have := List.sizeOf_lt_of_mem (List.mem_mergeSort.mp member)
    simp only [Prod.mk.sizeOf_spec] at this
    simp only [Node.folder.sizeOf_spec]
    exact Prod.Lex.right _ (by omega)
  · exact Prod.Lex.left _ _ (by omega)

/-- The files at and below a root. A root that is a link to a folder is always entered,
while a root that is a link to a file counts only if links are followed. -/
def filesOfRoot (tree : FileTree) (follow : Bool) (root : Bytes) : List Bytes :=
  match tree.locateEntry root with
  | .error _ => []
  | .ok place =>
    match tree.top.at? place with
    | none => []
    | some (.link target) =>
      match tree.locate root with
      | .error _ => []
      | .ok target' =>
        match tree.top.at? target' with
        | some (.folder size entries) =>
          tree.filesBelow follow maxLinks [] target' root (.folder size entries)
        | _ => tree.filesBelow follow maxLinks [] place root (.link target)
    | some node => tree.filesBelow follow maxLinks [] place root node

/-- The files at and below several roots, root after root. -/
def files (tree : FileTree) (follow : Bool) (roots : List Bytes) : List Bytes :=
  roots.flatMap (tree.filesOfRoot follow)

end FileTree

end LicenseText
