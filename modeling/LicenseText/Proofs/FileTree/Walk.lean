import Mathlib.Data.List.Nodup
import LicenseText.FileTree.Walk
import LicenseText.Proofs.FileTree.Plain
import LicenseText.Proofs.Text.Utf8

/-!
# What a walk collects

A walk below a folder of a plain tree lists the files that are not hidden, in the order of
the names that lead to them. Hidden is what has a name that is a text with a dot in front.
A folder is opened by its path, and the operating system opens no path of more than
`FileTree.longestPath` bytes; so a file is left out when the path of the folder that holds
it is longer. `Listing` says what a list of paths lists, and it is put together from the
listings of the entries of a folder.
-/

namespace LicenseText

/-- Places stand in the order of the first names in which they differ, names being compared
as byte strings; a place stands before those below it. -/
def Place.Before (a b : Place) : Prop := List.Lex Bytes.Before a b

theorem Place.not_before_self (place : Place) : ¬place.Before place :=
  List.lex_irrefl Bytes.not_before_self _

def IsDotted (name : Bytes) : Prop := ∃ rest : Text, name = Text.bytes ('.' :: rest)

theorem isHidden_iff {name : Bytes} : isHidden name = true ↔ IsDotted name := by
  rw [isHidden, IsDotted]
  cases htext : name.text? with
  | none =>
      refine iff_of_false Bool.false_ne_true ?_
      rintro ⟨rest, hname⟩
      exact Bytes.text?_eq_none_iff.mp htext _ hname
  | some text =>
      obtain rfl := Bytes.text?_eq_some_iff.mp htext
      rw [beq_iff_eq, List.head?_eq_some_iff]
      constructor
      · rintro ⟨rest, rfl⟩
        exact ⟨rest, rfl⟩
      · rintro ⟨rest, hname⟩
        refine ⟨rest, ?_⟩
        rw [← Option.some.injEq, ← Bytes.text?_bytes, hname, Bytes.text?_bytes]

theorem isHidden_eq_false_iff {name : Bytes} : isHidden name = false ↔ ¬IsDotted name := by
  rw [← isHidden_iff, Bool.not_eq_true]

namespace Node

/-- Along the names a file stands below the node, and none of the names is a text that
starts with a dot. -/
def Shows (node : Node) (names : Place) : Prop :=
  (∃ bytes, node.at? names = some (.file bytes)) ∧ ∀ name ∈ names, ¬IsDotted name

/-- Along the names a file stands below the node, and none of the names starts with a dot,
be it a text or not. -/
def ShowsUndotted (node : Node) (names : Place) : Prop :=
  (∃ bytes, node.at? names = some (.file bytes)) ∧ ∀ name ∈ names, name.head? ≠ some Path.dot

theorem IsPlain.isName_of_shows {node : Node} (h : node.IsPlain) {names : Place}
    (hshows : node.Shows names) : ∀ name ∈ names, Path.IsName name := by
  obtain ⟨⟨bytes, hfile⟩, -⟩ := hshows
  exact (h.of_at? hfile).2

/-- The node shows a file along the names, and the folder that holds the file can be
opened, where `path` is the path of the node. -/
def Offers (path : Bytes) (node : Node) (names : Place) : Prop :=
  node.Shows names ∧
    (names ≠ [] → (Path.along path names.dropLast).length ≤ FileTree.longestPath)

/-- What an entry offers of the folder with the given path, namely nothing if it is
hidden. -/
def EntryOffers (path : Bytes) (entry : Bytes × Node) (rest : Place) : Prop :=
  ¬IsDotted entry.1 ∧ entry.2.Offers (Path.below path entry.1) rest

variable {size : Nat} {path : Bytes} {entries : List (Bytes × Node)}

theorem offers_file_iff (bytes : ByteArray) (names : Place) :
    (file bytes).Offers path names ↔ names = [] := by
  cases names with
  | nil => simp [Offers, Shows]
  | cons name rest => simp [Offers, Shows, at?_file_cons]

/-- What a folder offers is offered by one of its entries. -/
theorem offers_folder_iff (hnodup : (entries.map Prod.fst).Nodup)
    (hsize : path.length ≤ FileTree.longestPath) (names : Place) :
    (folder size entries).Offers path names ↔
      ∃ entry ∈ entries, ∃ rest, names = entry.1 :: rest ∧ EntryOffers path entry rest := by
  constructor
  · rintro ⟨⟨⟨bytes, hfile⟩, hshown⟩, hopen⟩
    cases names with
    | nil =>
        simp at hfile
    | cons name rest =>
        rw [at?_folder_cons] at hfile
        obtain ⟨child, hchild, hbelow⟩ := Option.bind_eq_some_iff.mp hfile
        obtain ⟨hname, hrest⟩ := List.forall_mem_cons.mp hshown
        refine ⟨(name, child), mem_of_lookup hchild, rest, rfl, hname,
          ⟨⟨bytes, hbelow⟩, hrest⟩, ?_⟩
        intro hne
        have hpath := hopen (List.cons_ne_nil _ _)
        rwa [List.dropLast_cons_of_ne_nil hne, Path.along_cons] at hpath
  · rintro ⟨⟨name, child⟩, hmem, rest, rfl, hname, ⟨⟨bytes, hfile⟩, hrest⟩, hopen⟩
    refine ⟨⟨⟨bytes, ?_⟩, List.forall_mem_cons.mpr ⟨hname, hrest⟩⟩, ?_⟩
    · rw [at?_folder_cons, lookup_of_mem hnodup hmem]
      exact hfile
    · intro _
      by_cases hne : rest = []
      · rw [hne]
        exact hsize
      · rw [List.dropLast_cons_of_ne_nil hne, Path.along_cons]
        exact hopen hne

/-- A folder offers nothing if its own path is too long. -/
theorem not_offers_folder (hpath : path ≠ [])
    (hsize : ¬path.length ≤ FileTree.longestPath) (names : Place) :
    ¬(folder size entries).Offers path names := by
  rintro ⟨⟨⟨bytes, hfile⟩, -⟩, hopen⟩
  cases names with
  | nil =>
      simp at hfile
  | cons name rest =>
      have hgrows := Path.length_le_along hpath (name :: rest).dropLast
      exact hsize (Nat.le_trans hgrows (hopen (List.cons_ne_nil _ _)))

end Node

/-! ## Listings -/

/-- The paths are those that go on from `path` along the places that are offered, and they
stand in the order of these places. -/
def Listing (offered : Place → Prop) (path : Bytes) (paths : List Bytes) : Prop :=
  ∃ below : List Place, paths = below.map (Path.along path) ∧
    below.Pairwise Place.Before ∧ ∀ names, names ∈ below ↔ offered names

namespace Listing

variable {path : Bytes} {paths : List Bytes}

theorem congr {offered offered' : Place → Prop} (h : Listing offered path paths)
    (hiff : ∀ names, offered' names ↔ offered names) : Listing offered' path paths := by
  obtain ⟨below, hpaths, hsorted, hmem⟩ := h
  exact ⟨below, hpaths, hsorted, fun names => (hmem names).trans (hiff names).symm⟩

theorem nil {offered : Place → Prop} (h : ∀ names, ¬offered names) :
    Listing offered path [] :=
  ⟨[], rfl, .nil, fun names => iff_of_false List.not_mem_nil (h names)⟩

theorem self : Listing (· = []) path [path] :=
  ⟨[[]], rfl, List.pairwise_singleton _ _, fun _ => List.mem_singleton⟩

/-- The listings of entries with increasing names, one behind the other, are a listing. -/
theorem flatMap {entries : List (Bytes × Node)} {offered : Bytes × Node → Place → Prop}
    {walk : Bytes × Node → List Bytes}
    (hsorted : entries.Pairwise fun a b => Bytes.Before a.1 b.1)
    (hwalk : ∀ entry ∈ entries,
      Listing (offered entry) (Path.below path entry.1) (walk entry)) :
    Listing
      (fun names => ∃ entry ∈ entries, ∃ rest, names = entry.1 :: rest ∧ offered entry rest)
      path (entries.flatMap walk) := by
  induction entries with
  | nil => exact nil (by simp)
  | cons entry entries ih =>
      obtain ⟨hfirst, hsorted⟩ := List.pairwise_cons.mp hsorted
      obtain ⟨hentry, hrest⟩ := List.forall_mem_cons.mp hwalk
      obtain ⟨inside, hinside, hincreasing, hmem⟩ := hentry
      obtain ⟨behind, hbehind, hlater, hmem'⟩ := ih hsorted hrest
      refine ⟨inside.map (entry.1 :: ·) ++ behind, ?_, ?_, ?_⟩
      · rw [List.flatMap_cons, hinside, hbehind, List.map_append, List.map_map]
        rfl
      · refine List.pairwise_append.mpr ⟨?_, hlater, ?_⟩
        · exact List.pairwise_map.mpr (hincreasing.imp fun h => List.Lex.cons h)
        · intro names hnames other hother
          obtain ⟨rest, -, rfl⟩ := List.mem_map.mp hnames
          obtain ⟨next, hnext, rest', rfl, -⟩ := (hmem' other).mp hother
          exact List.Lex.rel (hfirst next hnext)
      · intro names
        rw [List.mem_append, List.mem_map, hmem']
        dsimp only
        rw [List.exists_mem_cons_iff]
        refine or_congr_left ?_
        constructor
        · rintro ⟨rest, hrest, rfl⟩
          exact ⟨rest, rfl, (hmem rest).mp hrest⟩
        · rintro ⟨rest, rfl, hrest⟩
          exact ⟨rest, (hmem rest).mpr hrest, rfl⟩

section Names

variable {offered : Place → Prop} (h : Listing offered path paths) (hpath : path ≠ [])
  (hproper : ∀ names, offered names → ∀ name ∈ names, Path.IsName name)
include h hpath hproper

/-- A path is listed exactly when the place to which it goes on is offered. -/
theorem mem_iff {names : Place} (hnames : ∀ name ∈ names, Path.IsName name) :
    Path.along path names ∈ paths ↔ offered names := by
  obtain ⟨below, rfl, -, hmem⟩ := h
  rw [List.mem_map]
  constructor
  · rintro ⟨other, hother, heq⟩
    have hoffered := (hmem other).mp hother
    rwa [← Path.along_inj hpath (hproper other hoffered) hnames heq]
  · intro hoffered
    exact ⟨names, (hmem names).mpr hoffered, rfl⟩

/-- No path is listed twice. -/
theorem nodup : paths.Nodup := by
  obtain ⟨below, rfl, hsorted, hmem⟩ := h
  have hnodup : below.Nodup := by
    refine hsorted.imp ?_
    rintro names other hbefore rfl
    exact Place.not_before_self names hbefore
  refine List.Nodup.map_on ?_ hnodup
  intro names hin other hother heq
  exact Path.along_inj hpath (hproper names ((hmem names).mp hin))
    (hproper other ((hmem other).mp hother)) heq

end Names

end Listing

/-! ## The walk -/

theorem entryPrecedes_trans (a b c : Bytes × Node) (hab : entryPrecedes a b)
    (hbc : entryPrecedes b c) : entryPrecedes a c :=
  comesBefore_trans hab hbc

theorem entryPrecedes_total (a b : Bytes × Node) :
    (entryPrecedes a b || entryPrecedes b a) = true :=
  comesBefore_total UInt8.toNat a.1 b.1

theorem pairwise_sortedEntries {entries : List (Bytes × Node)}
    (hnodup : (entries.map Prod.fst).Nodup) :
    (entries.mergeSort entryPrecedes).Pairwise fun a b => Bytes.Before a.1 b.1 := by
  have hsorted : (entries.mergeSort entryPrecedes).Pairwise
      fun a b => entryPrecedes a b = true :=
    List.pairwise_mergeSort entryPrecedes_trans entryPrecedes_total entries
  have hdifferent : ((entries.mergeSort entryPrecedes).map Prod.fst).Nodup :=
    ((List.mergeSort_perm entries entryPrecedes).map Prod.fst).nodup_iff.mpr hnodup
  rw [List.Nodup, List.pairwise_map] at hdifferent
  exact hsorted.imp₂ (fun _ _ hle hne => Bytes.before_of_sortsBefore hle hne) hdifferent

namespace FileTree

open LicenseText.Path (dot slash)

variable {tree : FileTree} {path : Bytes} {place : Place}

/-- The files of an entry of a folder whose place and path are given. -/
def filesOfEntry (tree : FileTree) (follow : Bool) (links : Nat) (walked : List Place)
    (place : Place) (path : Bytes) (entry : Bytes × Node) : List Bytes :=
  if isHidden entry.1 then []
  else
    tree.filesBelow follow links (place :: walked) (place ++ [entry.1])
      (Path.below path entry.1) entry.2

theorem filesBelow_folder (tree : FileTree) (follow : Bool) (links : Nat)
    (walked : List Place) (place : Place) (path : Bytes) (size : Nat)
    (entries : List (Bytes × Node)) :
    tree.filesBelow follow links walked place path (.folder size entries) =
      if tree.holds path then
        (entries.mergeSort entryPrecedes).flatMap
          (tree.filesOfEntry follow links walked place path)
      else [] := by
  rw [filesBelow]
  conv =>
    rhs
    rw [← List.attach_map_subtype_val (entries.mergeSort entryPrecedes), List.flatMap_map]
  rfl

section Plain

variable (h : tree.top.IsPlain) (follow : Bool)
include h

theorem listing_filesBelow (links : Nat) {node : Node} (hnode : node.IsPlain)
    (walked : List Place) (hplace : tree.top.at? place = some node)
    (hleads : tree.LeadsTo path place) :
    Listing (node.Offers path) path (tree.filesBelow follow links walked place path node) := by
  induction hnode generalizing walked place path with
  | file bytes =>
      rw [filesBelow]
      exact Listing.self.congr (Node.offers_file_iff bytes)
  | @folder size entries nodup isName children ih =>
      rw [filesBelow_folder]
      by_cases hsize : path.length ≤ longestPath
      · rw [if_pos ((hleads.holds_iff h hplace).mpr hsize)]
        have hentries : ∀ entry ∈ entries.mergeSort entryPrecedes,
            Listing (Node.EntryOffers path entry) (Path.below path entry.1)
              (tree.filesOfEntry follow links walked place path entry) := by
          intro entry hentry
          have hmem : entry ∈ entries := List.mem_mergeSort.mp hentry
          obtain ⟨hbelow, hchild⟩ := hleads.below h hplace hmem
          rw [filesOfEntry]
          cases hhidden : isHidden entry.1 with
          | true =>
              refine Listing.nil fun rest hoffers => ?_
              exact hoffers.1 (isHidden_iff.mp hhidden)
          | false =>
              refine (ih entry hmem (place :: walked) hchild hbelow).congr fun rest => ?_
              exact and_iff_right (isHidden_eq_false_iff.mp hhidden)
        refine (Listing.flatMap (pairwise_sortedEntries nodup) hentries).congr fun names => ?_
        simp only [Node.offers_folder_iff nodup hsize, List.mem_mergeSort]
      · rw [if_neg fun hholds => hsize ((hleads.holds_iff h hplace).mp hholds)]
        exact Listing.nil (Node.not_offers_folder hleads.ne_nil hsize)

/-! ### Roots -/

/-- Nothing is collected at a root that leads nowhere. -/
theorem filesOfRoot_of_error {root : Bytes} {e : PathError} (hroot : tree.node root = .error e) :
    tree.filesOfRoot follow root = [] := by
  rcases tree.locateEntry_cases h root with hentry | ⟨e', place, -, hentry, hnone⟩
  · rw [filesOfRoot, hentry]
    cases hlocate : tree.locate root with
    | error e => rfl
    | ok place =>
        cases hplace : tree.top.at? place with
        | none => simp [hplace]
        | some node =>
            rw [FileTree.node, hlocate] at hroot
            simp [bind, Except.bind, hplace] at hroot
  · rw [filesOfRoot, hentry]
    simp [hnone]

/-- At a root that leads to a node the files of this node are collected. -/
theorem filesOfRoot_of_node {root : Bytes} {node : Node} (hroot : tree.node root = .ok node) :
    ∃ place, tree.top.at? place = some node ∧ tree.LeadsTo root place ∧
      tree.filesOfRoot follow root = tree.filesBelow follow maxLinks [] place root node := by
  obtain ⟨place, hlocate, hplace⟩ := locate_of_node hroot
  refine ⟨place, hplace, (leadsTo_of_locate h hlocate).1, ?_⟩
  rcases tree.locateEntry_cases h root with hentry | ⟨e, -, herror, -⟩
  · rw [filesOfRoot, hentry, hlocate]
    cases (h.of_at? hplace).1 with
    | file bytes => simp [hplace]
    | folder size nodup isName children => simp [hplace]
  · rw [herror] at hlocate
    contradiction

end Plain

/-- What is collected at a root: the root itself if it is a file, nothing if it leads nowhere,
and else a listing of what is offered in the folder, without repetition. -/
def Collects (tree : FileTree) (offered : Bytes → Node → Place → Prop) (root : Bytes)
    (paths : List Bytes) : Prop :=
  match tree.node root with
  | .error _ => paths = []
  | .ok (.folder size entries) =>
    Listing (offered root (.folder size entries)) root paths ∧ paths.Nodup
  | .ok _ => paths = [root]

theorem collects_filesOfRoot (h : tree.top.IsPlain) (follow : Bool) (root : Bytes) :
    tree.Collects Node.Offers root (tree.filesOfRoot follow root) := by
  rw [Collects]
  cases hroot : tree.node root with
  | error e => exact filesOfRoot_of_error h follow hroot
  | ok node =>
      obtain ⟨place, hplace, hleads, hfiles⟩ := filesOfRoot_of_node h follow hroot
      have hplain := (h.of_at? hplace).1
      have hlisting := listing_filesBelow h follow maxLinks hplain [] hplace hleads
      rw [hfiles]
      cases hplain with
      | file bytes => rw [filesBelow]
      | folder size nodup isName children =>
          have hfolder := Node.IsPlain.folder size nodup isName children
          exact ⟨hlisting, hlisting.nodup hleads.ne_nil fun _ h => hfolder.isName_of_shows h.1⟩

/-- A file is collected at a folder exactly when it is offered there. -/
theorem mem_filesOfRoot_iff (h : tree.top.IsPlain) (follow : Bool) {root : Bytes} {size : Nat}
    {entries : List (Bytes × Node)} (hroot : tree.node root = .ok (.folder size entries))
    {names : Place} (hnames : ∀ name ∈ names, Path.IsName name) :
    Path.along root names ∈ tree.filesOfRoot follow root ↔
      (Node.folder size entries).Offers root names := by
  obtain ⟨place, hplace, hleads, -⟩ := filesOfRoot_of_node h follow hroot
  have hfolder := (h.of_at? hplace).1
  have hcollects := collects_filesOfRoot h follow root
  rw [Collects, hroot] at hcollects
  exact hcollects.1.mem_iff hleads.ne_nil (fun _ h => hfolder.isName_of_shows h.1) hnames

/-- In a plain tree the files of several roots are those of each root, root after root. At a
root that is a file this is the root, at a root that leads nowhere it is nothing, and at a
folder it is, in the order of their places and each once, the files below it along names of
which none is a text that starts with a dot, as far as they stand in folders whose paths are
not too long to be opened. -/
theorem files_collects (tree : FileTree) (h : tree.top.IsPlain) (follow : Bool)
    (roots : List Bytes) :
    ∃ lists, tree.files follow roots = lists.flatten ∧
      List.Forall₂ (tree.Collects Node.Offers) roots lists := by
  refine ⟨roots.map (tree.filesOfRoot follow), List.flatMap_def, ?_⟩
  rw [List.forall₂_map_right_iff, List.forall₂_same]
  exact fun root _ => collects_filesOfRoot h follow root

/-! ### A path that is too long, and a name that is no text -/

def nested : FileTree :=
  ⟨.folder 4096 [(Text.bytes ['d'], .folder 4096 [(Text.bytes ['f'], .file .empty)])], [], none⟩

theorem isPlain_nested : nested.top.IsPlain :=
  .folder_singleton _ (by decide) (.folder_singleton _ (by decide) (.file _))

theorem files_collects_of_nested :
    nested.top.IsPlain ∧ ∃ lists, nested.files false [[dot]] = lists.flatten ∧
      List.Forall₂ (nested.Collects Node.Offers) [[dot]] lists :=
  ⟨isPlain_nested, files_collects nested isPlain_nested false [[dot]]⟩

/-- A path to the present folder with slashes behind the dot. -/
def slashed (n : Nat) : Bytes := dot :: List.replicate n slash

theorem names_slashes (n : Nat) : Path.names (List.replicate n slash) = [] := by
  induction n with
  | zero => decide
  | succ n ih =>
      have hslash := Path.names_append_slash [] (List.replicate n slash)
      rwa [ih, List.append_nil] at hslash

theorem names_slashed (n : Nat) : Path.names (slashed n) = [[dot]] := by
  cases n with
  | zero => decide
  | succ n =>
      have hslash := Path.names_append_slash [dot] (List.replicate n slash)
      rw [names_slashes, List.append_nil] at hslash
      exact hslash

theorem length_slashed (n : Nat) : (slashed n).length = n + 1 := by
  rw [slashed, List.length_cons, List.length_replicate]

/-- The path leads to the present folder, whatever slashes stand behind the dot. -/
theorem node_slashed (h : tree.top.IsPlain) {size : Nat} {entries : List (Bytes × Node)}
    (hcurrent : tree.top.at? tree.current = some (.folder size entries)) {n : Nat}
    (hsize : n + 1 ≤ longestPath) : tree.node (slashed n) = .ok (.folder size entries) := by
  have hnul : 0 ∉ slashed n := by
    have hslash : (0 : UInt8) ≠ slash := by decide
    have hdot : (0 : UInt8) ≠ dot := by decide
    simp [slashed, hslash, hdot]
  have hleads : tree.LeadsTo (slashed n) tree.current := by
    refine ⟨List.cons_ne_nil _ _, hnul, ?_⟩
    rw [names_slashed]
    exact (Node.resolve_dot _ _).mpr ⟨rfl, size, entries, hcurrent⟩
  have hlocate := hleads.locate h hcurrent (by rwa [length_slashed])
  rw [node, hlocate]
  simp only [bind, Except.bind]
  rw [hcurrent]

/-- What is collected at the present folder is what it offers, but not what it shows as long
as some file is shown and not offered, or offered and not shown. -/
theorem not_collects_of_not_iff (h : tree.top.IsPlain) {size : Nat}
    {entries : List (Bytes × Node)}
    (hcurrent : tree.top.at? tree.current = some (.folder size entries)) {n : Nat}
    (hsize : n + 1 ≤ longestPath) {names : Place} (hnames : ∀ name ∈ names, Path.IsName name)
    (hdiffer : ¬((Node.folder size entries).ShowsUndotted names ↔
      (Node.folder size entries).Offers (slashed n) names)) :
    ¬∃ lists, tree.files false [slashed n] = lists.flatten ∧
      List.Forall₂ (tree.Collects fun _ => Node.ShowsUndotted) [slashed n] lists := by
  rintro ⟨lists, hfiles, hlists⟩
  obtain ⟨paths, rest, hcollects, hrest, rfl⟩ := List.forall₂_cons_left_iff.mp hlists
  obtain rfl := List.forall₂_nil_left_iff.mp hrest
  have hpaths : tree.filesOfRoot false (slashed n) = paths := by
    simpa [files] using hfiles
  have hroot := node_slashed h hcurrent hsize
  rw [Collects, hroot] at hcollects
  have hfolder := (h.of_at? hcurrent).1
  refine hdiffer ?_
  rw [← mem_filesOfRoot_iff h false hroot hnames, hpaths,
    hcollects.1.mem_iff (List.cons_ne_nil _ _) (fun _ h => ?_) hnames]
  obtain ⟨⟨bytes, hfile⟩, -⟩ := h
  exact (hfolder.of_at? hfile).2

/-- The path of the folder `d` gets too long. -/
theorem not_offers_nested {n : Nat} (h : n + 1 = longestPath) :
    ¬nested.top.Offers (slashed n) [Text.bytes ['d'], Text.bytes ['f']] := by
  rintro ⟨-, hopen⟩
  have hsize : (Path.below (slashed n) (Text.bytes ['d'])).length ≤ longestPath :=
    hopen (List.cons_ne_nil _ _)
  have hne : slashed n ≠ [] := List.cons_ne_nil _ _
  have hgrows := Path.length_add_le_below hne (Text.bytes ['d'])
  have hname : (Text.bytes ['d']).length = 1 := by decide
  rw [length_slashed] at hgrows
  omega

/-- A dot and a byte that no text has. -/
def brokenName : Bytes := [dot, 0xFF]

/-- A tree with a file whose name starts with a dot and is no text. -/
def broken : FileTree := ⟨.folder 4096 [(brokenName, .file .empty)], [], none⟩

theorem isPlain_broken : broken.top.IsPlain :=
  .folder_singleton _ (by decide) (.file _)

theorem not_isDotted_brokenName : ¬IsDotted brokenName := by
  have hnone : brokenName.text? = none := by decide +kernel
  rintro ⟨rest, hname⟩
  exact Bytes.text?_eq_none_iff.mp hnone _ hname

/-- The file is offered, since its name is no text. -/
theorem offers_broken : broken.top.Offers (slashed 0) [brokenName] :=
  ⟨⟨⟨_, rfl⟩, by simpa using not_isDotted_brokenName⟩, fun _ => by decide⟩

/-- In the one tree the file in the folder has no name that starts with a dot, but the path
of the folder is too long. In the other one the name of the file starts with a dot, but it is
no text. -/
theorem files_of_slashed :
    (nested.top.IsPlain ∧ ¬∃ lists, nested.files false [slashed 4094] = lists.flatten ∧
        List.Forall₂ (nested.Collects fun _ => Node.ShowsUndotted) [slashed 4094] lists) ∧
      broken.top.IsPlain ∧ ¬∃ lists, broken.files false [slashed 0] = lists.flatten ∧
        List.Forall₂ (broken.Collects fun _ => Node.ShowsUndotted) [slashed 0] lists := by
  refine ⟨⟨isPlain_nested, ?_⟩, isPlain_broken, ?_⟩
  · have hnames : ∀ name ∈ [Text.bytes ['d'], Text.bytes ['f']], Path.IsName name := by decide
    refine not_collects_of_not_iff isPlain_nested (Node.at?_nil _) (Nat.le_refl _) hnames ?_
    intro hiff
    exact not_offers_nested rfl (hiff.mp ⟨⟨_, rfl⟩, by decide⟩)
  · have hnames : ∀ name ∈ [brokenName], Path.IsName name := by decide
    refine not_collects_of_not_iff isPlain_broken (Node.at?_nil _) (by decide) hnames ?_
    intro hiff
    have hshown := hiff.mpr offers_broken
    exact hshown.2 _ List.mem_cons_self rfl

end FileTree

end LicenseText
