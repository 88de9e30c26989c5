import LicenseText.FileTree

/-!
# Paths put together from names

`IsName` says what may be the name of an entry of a folder. A path that goes on with names
is taken apart into its own names and these, so paths that go on differently from the same
path are different, and a path grows by what it goes on with.
-/

namespace LicenseText

namespace Path

/-- What the file system takes for the name of an entry. -/
structure IsName (name : Bytes) : Prop where
  ne_nil : name ≠ []
  slash_not_mem : slash ∉ name
  nul_not_mem : 0 ∉ name
  ne_dot : name ≠ [dot]
  ne_dots : name ≠ [dot, dot]
  length_le : name.length ≤ Node.longestName

instance (name : Bytes) : Decidable (IsName name) :=
  decidable_of_iff
    (name ≠ [] ∧ slash ∉ name ∧ 0 ∉ name ∧ name ≠ [dot] ∧ name ≠ [dot, dot] ∧
      name.length ≤ Node.longestName)
    ⟨fun ⟨a, b, c, d, e, f⟩ => ⟨a, b, c, d, e, f⟩,
      fun ⟨a, b, c, d, e, f⟩ => ⟨a, b, c, d, e, f⟩⟩

/-- The names of a path, the dots included. -/
def names (path : Bytes) : List Bytes := (path.splitOn slash).filter fun name => !name.isEmpty

def along (path : Bytes) (names : List Bytes) : Bytes := names.foldl below path

theorem steps_eq (path : Bytes) :
    steps path = names path ++ if path.getLast? = some slash then [[dot]] else [] := rfl

@[simp] theorem along_nil (path : Bytes) : along path [] = path := rfl

@[simp] theorem along_cons (path name : Bytes) (rest : List Bytes) :
    along path (name :: rest) = along (below path name) rest := rfl

section Below

variable {path name : Bytes}

/-- A path ends with a slash or gets one before it goes on. -/
theorem below_cases (hpath : path ≠ []) (name : Bytes) :
    (∃ front, path = front ++ [slash] ∧ below path name = front ++ slash :: name) ∨
      path.getLast? ≠ some slash ∧ below path name = path ++ slash :: name := by
  have hempty : path.isEmpty = false := List.isEmpty_eq_false_iff.mpr hpath
  by_cases hslash : path.getLast? = some slash
  · obtain ⟨front, rfl⟩ := List.getLast?_eq_some_iff.mp hslash
    refine .inl ⟨front, rfl, ?_⟩
    simp [below]
  · refine .inr ⟨hslash, ?_⟩
    simp [below, hempty, hslash]

theorem below_ne_nil (hpath : path ≠ []) (name : Bytes) : below path name ≠ [] := by
  rcases below_cases hpath name with ⟨front, -, hbelow⟩ | ⟨-, hbelow⟩
  · simp [hbelow]
  · simp [hbelow]

theorem names_append_slash (front rest : Bytes) :
    names (front ++ slash :: rest) = names front ++ names rest := by
  rw [names, List.splitOn_append_cons_self, List.filter_append, ← names, ← names]

theorem names_of_isName (hname : IsName name) : names name = [name] := by
  have hempty : name.isEmpty = false := List.isEmpty_eq_false_iff.mpr hname.ne_nil
  rw [names, List.splitOn_eq_singleton hname.slash_not_mem]
  simp [hempty]

theorem names_below (hpath : path ≠ []) (hname : IsName name) :
    names (below path name) = names path ++ [name] := by
  rcases below_cases hpath name with ⟨front, rfl, hbelow⟩ | ⟨-, hbelow⟩
  · have hfront : names (front ++ [slash]) = names front := by
      rw [names_append_slash]
      simp [names]
    rw [hbelow, names_append_slash, names_of_isName hname, hfront]
  · rw [hbelow, names_append_slash, names_of_isName hname]

theorem isAbsolute_below (hpath : path ≠ []) (name : Bytes) :
    isAbsolute (below path name) = isAbsolute path := by
  obtain ⟨c, rest, rfl⟩ := List.exists_cons_of_ne_nil hpath
  rcases below_cases hpath name with ⟨front, hfront, hbelow⟩ | ⟨-, hbelow⟩
  · rw [isAbsolute, isAbsolute, hbelow, hfront]
    cases front <;> rfl
  · rw [isAbsolute, isAbsolute, hbelow]
    rfl

theorem nul_not_mem_below (hpath : path ≠ []) (hnul : 0 ∉ path) (hname : IsName name) :
    0 ∉ below path name := by
  have hslash : 0 ≠ slash := by decide
  rcases below_cases hpath name with ⟨front, rfl, hbelow⟩ | ⟨-, hbelow⟩
  · rw [hbelow]
    simp only [List.mem_append, List.mem_cons, not_or] at hnul ⊢
    exact ⟨hnul.1, hslash, hname.nul_not_mem⟩
  · rw [hbelow]
    simp only [List.mem_append, List.mem_cons, not_or]
    exact ⟨hnul, hslash, hname.nul_not_mem⟩

theorem length_add_le_below (hpath : path ≠ []) (name : Bytes) :
    path.length + name.length ≤ (below path name).length := by
  rcases below_cases hpath name with ⟨front, rfl, hbelow⟩ | ⟨-, hbelow⟩
  · rw [hbelow, List.length_append, List.length_append, List.length_cons, List.length_cons,
      List.length_nil]
    omega
  · rw [hbelow, List.length_append, List.length_cons]
    omega

end Below

/-! ## Several names -/

section Along

variable {path : Bytes}

theorem names_along (hpath : path ≠ []) {rest : List Bytes} (hrest : ∀ name ∈ rest, IsName name) :
    names (along path rest) = names path ++ rest := by
  induction rest generalizing path with
  | nil => simp
  | cons name rest ih =>
      obtain ⟨hname, hrest⟩ := List.forall_mem_cons.mp hrest
      rw [along_cons, ih (below_ne_nil hpath name) hrest, names_below hpath hname,
        List.append_assoc, List.singleton_append]

theorem isAbsolute_along (hpath : path ≠ []) (rest : List Bytes) :
    isAbsolute (along path rest) = isAbsolute path := by
  induction rest generalizing path with
  | nil => rfl
  | cons name rest ih =>
      rw [along_cons, ih (below_ne_nil hpath name), isAbsolute_below hpath]

/-- Paths that go on along different names are different. -/
theorem along_inj (hpath : path ≠ []) {xs ys : List Bytes} (hxs : ∀ name ∈ xs, IsName name)
    (hys : ∀ name ∈ ys, IsName name) (h : along path xs = along path ys) : xs = ys := by
  have hnames := congrArg names h
  rwa [names_along hpath hxs, names_along hpath hys, List.append_cancel_left_eq] at hnames

theorem length_le_along (hpath : path ≠ []) (rest : List Bytes) :
    path.length ≤ (along path rest).length := by
  induction rest generalizing path with
  | nil => exact Nat.le_refl _
  | cons name rest ih =>
      calc path.length
          ≤ (below path name).length :=
            Nat.le_trans (Nat.le_add_right _ _) (length_add_le_below hpath name)
        _ ≤ (along path (name :: rest)).length := ih (below_ne_nil hpath name)

end Along

end Path

end LicenseText
