import LicenseText.Proofs.FileTree.Path
import LicenseText.Proofs.Text.Lookup

/-!
# Plain trees

A plain tree has files and folders but no links, and its names are such as a file system
takes. In a plain tree a path is walked name by name, so a path that goes on leads on from
where it led before.
-/

namespace LicenseText

namespace Node

/-- A node without links, in which every folder has different and proper names. -/
inductive IsPlain : Node → Prop
  | file (bytes : ByteArray) : IsPlain (.file bytes)
  | folder (size : Nat) {entries : List (Bytes × Node)} (nodup : (entries.map Prod.fst).Nodup)
      (isName : ∀ entry ∈ entries, Path.IsName entry.1)
      (children : ∀ entry ∈ entries, IsPlain entry.2) : IsPlain (.folder size entries)

open LicenseText.Path (dot)

variable {size : Nat} {node child : Node} {entries : List (Bytes × Node)} {name : Bytes}
  {place rest : Place}

theorem IsPlain.folder_singleton (size : Nat) (hname : Path.IsName name) (hchild : child.IsPlain) :
    IsPlain (.folder size [(name, child)]) := by
  refine .folder size (List.pairwise_singleton _ _) (fun entry hentry => ?_) fun entry hentry => ?_
  · obtain rfl := List.mem_singleton.mp hentry
    exact hname
  · obtain rfl := List.mem_singleton.mp hentry
    exact hchild

/-! ## Places -/

@[simp] theorem at?_nil (node : Node) : node.at? [] = some node := by
  cases node <;> rfl

theorem at?_folder_cons (size : Nat) (entries : List (Bytes × Node)) (name : Bytes)
    (rest : Place) :
    (folder size entries).at? (name :: rest) =
      (entries.lookup name).bind fun child => child.at? rest := rfl

theorem at?_file_cons (bytes : ByteArray) (name : Bytes) (rest : Place) :
    (file bytes).at? (name :: rest) = none := rfl

theorem at?_append (node : Node) (place rest : Place) :
    node.at? (place ++ rest) = (node.at? place).bind fun child => child.at? rest := by
  induction place generalizing node with
  | nil => rw [List.nil_append, at?_nil, Option.bind_some]
  | cons name place ih =>
      cases node with
      | file bytes => rfl
      | link target => rfl
      | folder size entries =>
          rw [List.cons_append, at?_folder_cons, at?_folder_cons]
          cases entries.lookup name with
          | none => rfl
          | some child => exact ih child

theorem IsPlain.of_at? (h : node.IsPlain) (hchild : node.at? place = some child) :
    child.IsPlain ∧ ∀ name ∈ place, Path.IsName name := by
  induction place generalizing node with
  | nil =>
      rw [at?_nil] at hchild
      obtain rfl := Option.some.inj hchild
      exact ⟨h, by simp⟩
  | cons name rest ih =>
      cases h with
      | file bytes => contradiction
      | @folder size entries nodup isName children =>
          rw [at?_folder_cons] at hchild
          obtain ⟨next, hnext, hrest⟩ := Option.bind_eq_some_iff.mp hchild
          have hmem := mem_of_lookup hnext
          obtain ⟨hplain, hnames⟩ := ih (children _ hmem) hrest
          exact ⟨hplain, List.forall_mem_cons.mpr ⟨isName _ hmem, hnames⟩⟩

/-! ## Walking along a path -/

section Resolve

variable {top : Node} (h : top.IsPlain) (links : Nat) (here : Place)
include h

theorem resolve_append (xs ys : List Bytes) :
    top.resolve links here (xs ++ ys) =
      (top.resolve links here xs).bind fun place => top.resolve links place ys := by
  induction xs generalizing here with
  | nil => rw [List.nil_append, resolve]; rfl
  | cons name xs ih =>
      rw [List.cons_append, resolve, resolve]
      cases hhere : top.at? here with
      | none => rfl
      | some node =>
          cases node with
          | file bytes => rfl
          | link target => rfl
          | folder size entries =>
              dsimp only
              by_cases hdots : name = [dot, dot]
              · rw [if_pos hdots, if_pos hdots, ih]
              by_cases hdot : name = [dot]
              · rw [if_neg hdots, if_neg hdots, if_pos hdot, if_pos hdot, ih]
              rw [if_neg hdots, if_neg hdots, if_neg hdot, if_neg hdot]
              by_cases hlong : longestName < name.length
              · rw [if_pos hlong, if_pos hlong]
                rfl
              rw [if_neg hlong, if_neg hlong]
              cases hlookup : entries.lookup name with
              | none => rfl
              | some child =>
                  cases child with
                  | file bytes => exact ih _
                  | folder size inner => exact ih _
                  | link target =>
                      cases (h.of_at? hhere).1 with
                      | folder size nodup isName children =>
                          cases children _ (mem_of_lookup hlookup)

theorem resolve_name {entries : List (Bytes × Node)}
    (hhere : top.at? here = some (.folder size entries)) {name : Bytes}
    (hdots : name ≠ [dot, dot]) (hdot : name ≠ [dot]) :
    top.resolve links here [name] =
      if longestName < name.length then .error .tooLong
      else
        match entries.lookup name with
        | none => .error .missing
        | some _ => .ok (here ++ [name]) := by
  rw [resolve, hhere]
  dsimp only
  rw [if_neg hdots, if_neg hdot]
  by_cases hlong : longestName < name.length
  · rw [if_pos hlong, if_pos hlong]
  rw [if_neg hlong, if_neg hlong]
  cases hlookup : entries.lookup name with
  | none => rfl
  | some child =>
      cases child with
      | file bytes => rw [resolve]
      | folder size inner => rw [resolve]
      | link target =>
          cases (h.of_at? hhere).1 with
          | folder size nodup isName children => cases children _ (mem_of_lookup hlookup)

theorem resolve_isName {entries : List (Bytes × Node)}
    (hhere : top.at? here = some (.folder size entries)) {name : Bytes}
    (hname : Path.IsName name) :
    top.resolve links here [name] =
      match entries.lookup name with
      | none => .error .missing
      | some _ => .ok (here ++ [name]) := by
  rw [resolve_name h links here hhere hname.ne_dots hname.ne_dot,
    if_neg (Nat.not_lt.mpr hname.length_le)]

omit h in
/-- A step that stays in place needs a folder to stay in. -/
theorem resolve_dot {place : Place} :
    top.resolve links here [[dot]] = .ok place ↔
      place = here ∧ ∃ size entries, top.at? here = some (.folder size entries) := by
  rw [resolve]
  have hdots : [dot] ≠ [dot, dot] := by decide
  cases hhere : top.at? here with
  | none => simp
  | some node =>
      cases node with
      | file bytes => simp
      | link target => simp
      | folder size entries =>
          dsimp only
          rw [if_neg hdots, if_pos rfl, resolve]
          simp [eq_comm]

end Resolve

end Node

namespace FileTree

open LicenseText.Path (dot)

variable {tree : FileTree} {size : Nat} {path : Bytes} {place : Place}
  {entries : List (Bytes × Node)}

theorem flaw?_eq_none_iff :
    flaw? path = none ↔ 0 ∉ path ∧ path ≠ [] ∧ path.length ≤ longestPath := by
  rw [flaw?]
  by_cases hnul : path.any (· = 0) = true
  · have hmem : 0 ∈ path := by simpa using hnul
    simp [hnul, hmem]
  have hmem : 0 ∉ path := by simpa using hnul
  rw [if_neg hnul]
  by_cases hempty : path = []
  · simp [hempty]
  by_cases hlong : longestPath < path.length
  · simp [hempty, hlong, Nat.not_le.mpr hlong]
  · simp [hempty, hlong, hmem, Nat.not_lt.mp hlong]

theorem locate_of_node {found : Node} (hpath : tree.node path = .ok found) :
    ∃ place, tree.locate path = .ok place ∧ tree.top.at? place = some found := by
  rw [FileTree.node] at hpath
  cases hlocate : tree.locate path with
  | error e =>
      rw [hlocate] at hpath
      contradiction
  | ok place =>
      rw [hlocate] at hpath
      simp only [bind, Except.bind] at hpath
      cases hplace : tree.top.at? place with
      | none =>
          rw [hplace] at hpath
          contradiction
      | some other =>
          rw [hplace] at hpath
          exact ⟨place, rfl, hplace.trans (congrArg some (Except.ok.inj hpath))⟩

/-- The names of a path lead to a place. The path itself may still be too long. -/
structure LeadsTo (tree : FileTree) (path : Bytes) (place : Place) : Prop where
  ne_nil : path ≠ []
  nul_not_mem : 0 ∉ path
  resolve : tree.top.resolve maxLinks (tree.origin path) (Path.names path) = .ok place

section Plain

variable (h : tree.top.IsPlain)
include h

theorem leadsTo_of_locate (hlocate : tree.locate path = .ok place) :
    tree.LeadsTo path place ∧ path.length ≤ longestPath := by
  rw [locate] at hlocate
  cases hflaw : flaw? path with
  | some error =>
      rw [hflaw] at hlocate
      contradiction
  | none =>
      obtain ⟨hnul, hne, hsize⟩ := flaw?_eq_none_iff.mp hflaw
      refine ⟨⟨hne, hnul, ?_⟩, hsize⟩
      rw [hflaw] at hlocate
      dsimp only at hlocate
      rw [Path.steps_eq, Node.resolve_append h] at hlocate
      cases hnames : tree.top.resolve maxLinks (tree.origin path) (Path.names path) with
      | error e =>
          rw [hnames] at hlocate
          contradiction
      | ok front =>
          rw [hnames] at hlocate
          dsimp only [Except.bind] at hlocate
          split at hlocate
          · exact congrArg Except.ok ((Node.resolve_dot _ _).mp hlocate).1.symm
          · rw [Node.resolve] at hlocate
            exact hlocate

/-- A path leads to a folder where its names lead, unless it is too long. -/
theorem LeadsTo.locate (hleads : tree.LeadsTo path place)
    (hfolder : tree.top.at? place = some (.folder size entries))
    (hsize : path.length ≤ longestPath) : tree.locate path = .ok place := by
  have hflaw := flaw?_eq_none_iff.mpr ⟨hleads.nul_not_mem, hleads.ne_nil, hsize⟩
  rw [FileTree.locate, hflaw]
  dsimp only
  rw [Path.steps_eq, Node.resolve_append h, hleads.resolve]
  dsimp only [Except.bind]
  split
  · exact (Node.resolve_dot _ _).mpr ⟨rfl, size, entries, hfolder⟩
  · rw [Node.resolve]

theorem LeadsTo.holds_iff (hleads : tree.LeadsTo path place)
    (hfolder : tree.top.at? place = some (.folder size entries)) :
    tree.holds path = true ↔ path.length ≤ longestPath := by
  constructor
  · intro hholds
    cases hlocate : tree.locate path with
    | ok other => exact (leadsTo_of_locate h hlocate).2
    | error e =>
        rw [holds, node, hlocate] at hholds
        contradiction
  · intro hsize
    rw [holds, node, hleads.locate h hfolder hsize]
    simp [bind, Except.bind, hfolder, Except.toBool]

/-- The path of an entry leads to the entry. -/
theorem LeadsTo.below {name : Bytes} {child : Node} (hleads : tree.LeadsTo path place)
    (hfolder : tree.top.at? place = some (.folder size entries)) (hmem : (name, child) ∈ entries) :
    tree.LeadsTo (Path.below path name) (place ++ [name]) ∧
      tree.top.at? (place ++ [name]) = some child := by
  cases (h.of_at? hfolder).1 with
  | folder size nodup isName children =>
      have hname := isName _ hmem
      have hlookup := lookup_of_mem nodup hmem
      have horigin : tree.origin (Path.below path name) = tree.origin path := by
        rw [origin, origin, Path.isAbsolute_below hleads.ne_nil]
      refine ⟨⟨Path.below_ne_nil hleads.ne_nil name,
        Path.nul_not_mem_below hleads.ne_nil hleads.nul_not_mem hname, ?_⟩, ?_⟩
      · have hstep := Node.resolve_isName h maxLinks place hfolder hname
        rw [hlookup] at hstep
        rw [horigin, Path.names_below hleads.ne_nil hname, Node.resolve_append h,
          hleads.resolve]
        exact hstep
      · rw [Node.at?_append, hfolder, Option.bind_some, Node.at?_folder_cons, hlookup]
        exact Node.at?_nil child

/-- Behind a name that no entry of a folder has, a path leads nowhere. -/
theorem LeadsTo.holds_along {name : Bytes} {rest : List Bytes} (hleads : tree.LeadsTo path place)
    (hfolder : tree.top.at? place = some (.folder size entries))
    (hnames : ∀ n ∈ name :: rest, Path.IsName n) (hmissing : entries.lookup name = none) :
    tree.holds (Path.along path (name :: rest)) = false := by
  cases hlocate : tree.locate (Path.along path (name :: rest)) with
  | error e =>
      rw [holds, node, hlocate]
      rfl
  | ok other =>
      have hresolve := (leadsTo_of_locate h hlocate).1.resolve
      have horigin : tree.origin (Path.along path (name :: rest)) = tree.origin path := by
        rw [origin, origin, Path.isAbsolute_along hleads.ne_nil]
      obtain ⟨hname, -⟩ := List.forall_mem_cons.mp hnames
      have hstep := Node.resolve_isName h maxLinks place hfolder hname
      rw [hmissing] at hstep
      rw [horigin, Path.names_along hleads.ne_nil hnames, Node.resolve_append h, hleads.resolve,
        Except.bind, ← List.singleton_append, Node.resolve_append h, hstep] at hresolve
      contradiction

theorem resolve_entry_cases {name : Bytes}
    (hfolder : tree.top.at? place = some (.folder size entries)) (hdot : name ≠ [dot])
    (hdots : name ≠ [dot, dot]) :
    tree.top.resolve maxLinks place [name] = .ok (place ++ [name]) ∨
      ∃ e, tree.top.resolve maxLinks place [name] = .error e ∧
        tree.top.at? (place ++ [name]) = none := by
  have hentry : tree.top.at? (place ++ [name]) = entries.lookup name := by
    rw [Node.at?_append, hfolder, Option.bind_some, Node.at?_folder_cons]
    simp
  rw [Node.resolve_name h maxLinks place hfolder hdots hdot]
  cases hlookup : entries.lookup name with
  | none =>
      right
      split
      · exact ⟨_, rfl, hentry.trans hlookup⟩
      · exact ⟨_, rfl, hentry.trans hlookup⟩
  | some child =>
      left
      cases (h.of_at? hfolder).1 with
      | folder size nodup isName children =>
          have hsize := (isName _ (mem_of_lookup hlookup)).length_le
          rw [if_neg (Nat.not_lt.mpr hsize)]

/-- The entry that a path names stands where the path leads, if the path leads anywhere,
and else there is nothing at its place. -/
theorem locateEntry_cases (path : Bytes) :
    tree.locateEntry path = tree.locate path ∨
      ∃ e place, tree.locate path = .error e ∧ tree.locateEntry path = .ok place ∧
        tree.top.at? place = none := by
  rw [locateEntry, FileTree.locate]
  cases hflaw : flaw? path with
  | some error => exact .inl rfl
  | none =>
      cases hlast : (Path.steps path).getLast? with
      | none => exact .inl rfl
      | some name =>
          dsimp only
          by_cases hdot : name = [dot] ∨ name = [dot, dot]
          · exact .inl (if_pos hdot)
          obtain ⟨front, hfront⟩ := List.getLast?_eq_some_iff.mp hlast
          rw [if_neg hdot, hfront, List.dropLast_concat, Node.resolve_append h]
          cases tree.top.resolve maxLinks (tree.origin path) front with
          | error e => exact .inl rfl
          | ok place =>
              simp only [bind, Except.bind]
              cases hplace : tree.top.at? place with
              | none =>
                  rw [Node.resolve, hplace]
                  exact .inl rfl
              | some node =>
                  cases node with
                  | file bytes =>
                      rw [Node.resolve, hplace]
                      exact .inl rfl
                  | link target =>
                      rw [Node.resolve, hplace]
                      exact .inl rfl
                  | folder size entries =>
                      obtain ⟨hdot, hdots⟩ := not_or.mp hdot
                      rcases resolve_entry_cases h hplace hdot hdots with
                        hresolve | ⟨e, hresolve, hnone⟩
                      · exact .inl hresolve.symm
                      · exact .inr ⟨e, _, hresolve, rfl, hnone⟩

end Plain

end FileTree

end LicenseText
