import LicenseText.Item

/-!
# Comments in the order of the document

The readers find the comments of a document one behind the other. `InOrder` says so of
a list of comments and the lines between which it lies, and it is put together from the
parts of a document: what holds up to some line and what holds from there on. `Within` is
what follows for each comment. How the lines of a body relate to the lines that a comment
spans is `FitsSpan` and `FillsSpan`.

`commentsOf` and `stringsOf` are the two kinds of items apart.
-/

namespace LicenseText

def commentsOf (items : List Item) : List Comment := items.filterMap Item.comment?

def stringsOf (items : List Item) : List StringLiteral := items.filterMap Item.string?

@[simp] theorem commentsOf_append (xs ys : List Item) :
    commentsOf (xs ++ ys) = commentsOf xs ++ commentsOf ys := by
  simp [commentsOf]

@[simp] theorem stringsOf_append (xs ys : List Item) :
    stringsOf (xs ++ ys) = stringsOf xs ++ stringsOf ys := by
  simp [stringsOf]

theorem commentsOf_perm {xs ys : List Item} (h : xs.Perm ys) :
    (commentsOf xs).Perm (commentsOf ys) :=
  h.filterMap _

theorem stringsOf_perm {xs ys : List Item} (h : xs.Perm ys) :
    (stringsOf xs).Perm (stringsOf ys) :=
  h.filterMap _

theorem commentsOf_sublist {xs ys : List Item} (h : xs.Sublist ys) :
    (commentsOf xs).Sublist (commentsOf ys) :=
  h.filterMap _

section Constructors

variable (c : Comment) (s : StringLiteral) (items : List Item)

@[simp] theorem commentsOf_nil : commentsOf [] = [] := rfl

@[simp] theorem stringsOf_nil : stringsOf [] = [] := rfl

@[simp] theorem commentsOf_cons_comment :
    commentsOf (.comment c :: items) = c :: commentsOf items := rfl

@[simp] theorem commentsOf_cons_string :
    commentsOf (.string s :: items) = commentsOf items := rfl

@[simp] theorem stringsOf_cons_comment :
    stringsOf (.comment c :: items) = stringsOf items := rfl

@[simp] theorem stringsOf_cons_string :
    stringsOf (.string s :: items) = s :: stringsOf items := rfl

end Constructors

@[simp] theorem commentsOf_map_string (literals : List StringLiteral) :
    commentsOf (literals.map .string) = [] := by
  simp [commentsOf, Item.comment?]

theorem commentsOf_toList (comment? : Option Comment) :
    commentsOf (comment?.map Item.comment).toList = comment?.toList := by
  cases comment? <;> rfl

theorem stringsOf_toList (literal? : Option StringLiteral) :
    stringsOf (literal?.map Item.string).toList = literal?.toList := by
  cases literal? <;> rfl

theorem reverse_toList (item? : Option Item) : item?.toList.reverse = item?.toList := by
  cases item? <;> rfl

theorem stringsOf_map_comment (comment? : Option Comment) :
    stringsOf (comment?.map Item.comment).toList = [] := by
  cases comment? <;> rfl

theorem mem_commentsOf {c : Comment} {items : List Item} :
    c ∈ commentsOf items ↔ .comment c ∈ items := by
  rw [commentsOf, List.mem_filterMap]
  constructor
  · rintro ⟨item, hitem, heq⟩
    cases item with
    | comment c' =>
        obtain rfl := Option.some.inj heq
        exact hitem
    | string s => contradiction
  · intro hitem
    exact ⟨.comment c, hitem, rfl⟩

theorem mem_stringsOf {s : StringLiteral} {items : List Item} :
    s ∈ stringsOf items ↔ .string s ∈ items := by
  rw [stringsOf, List.mem_filterMap]
  constructor
  · rintro ⟨item, hitem, heq⟩
    cases item with
    | comment c => contradiction
    | string s' =>
        obtain rfl := Option.some.inj heq
        exact hitem
  · intro hitem
    exact ⟨.string s, hitem, rfl⟩

namespace Comment

/-- The comment starts and ends between the lines `first` and `last`. -/
structure Within (first last : Nat) (c : Comment) : Prop where
  first_le : first ≤ c.startLine
  start_le : c.startLine ≤ c.endLine
  le_last : c.endLine ≤ last

/-- The body has at least one line and no more lines than the comment spans. -/
structure FitsSpan (c : Comment) : Prop where
  pos : 1 ≤ c.body.length
  le : c.body.length ≤ c.endLine - c.startLine + 1

/-- The body has as many lines as the comment spans. -/
def FillsSpan (c : Comment) : Prop := c.body.length = c.endLine - c.startLine + 1

theorem FillsSpan.fitsSpan {c : Comment} (h : c.FillsSpan) : c.FitsSpan where
  pos := by
    rw [h]
    exact Nat.le_add_left _ _
  le := Nat.le_of_eq h

/-- Between the lines `first` and `last` the comments follow one another: each starts no
earlier than the one before it ends, and none ends before it starts. -/
def InOrder : Nat → Nat → List Comment → Prop
  | first, last, [] => first ≤ last
  | first, last, c :: rest =>
    first ≤ c.startLine ∧ c.startLine ≤ c.endLine ∧ InOrder c.endLine last rest

namespace InOrder

variable {first mid last : Nat} {xs ys : List Comment}

theorem weaken_last (h : InOrder first mid xs) (hlast : mid ≤ last) :
    InOrder first last xs := by
  induction xs generalizing first with
  | nil => exact Nat.le_trans h hlast
  | cons c rest ih => exact ⟨h.1, h.2.1, ih h.2.2⟩

theorem weaken_first (h : InOrder mid last xs) (hfirst : first ≤ mid) :
    InOrder first last xs := by
  cases xs with
  | nil => exact Nat.le_trans hfirst h
  | cons c rest => exact ⟨Nat.le_trans hfirst h.1, h.2⟩

theorem append (hxs : InOrder first mid xs) (hys : InOrder mid last ys) :
    InOrder first last (xs ++ ys) := by
  induction xs generalizing first with
  | nil => exact hys.weaken_first hxs
  | cons c rest ih => exact ⟨hxs.1, hxs.2.1, ih hxs.2.2⟩

theorem first_le_last (h : InOrder first last xs) : first ≤ last := by
  induction xs generalizing first with
  | nil => exact h
  | cons c rest ih => exact Nat.le_trans (Nat.le_trans h.1 h.2.1) (ih h.2.2)

theorem first_le_startLine (h : InOrder first last xs) : ∀ c ∈ xs, first ≤ c.startLine := by
  induction xs generalizing first with
  | nil => simp
  | cons c rest ih =>
      obtain ⟨hfirst, hspan, hrest⟩ := h
      intro next hnext
      rcases List.mem_cons.mp hnext with rfl | hnext
      · exact hfirst
      · exact ih (hrest.weaken_first (Nat.le_trans hfirst hspan)) next hnext

/-- No comment starts before an earlier one ends. -/
theorem pairwise (h : InOrder first last xs) :
    xs.Pairwise fun c next => c.endLine ≤ next.startLine := by
  induction xs generalizing first with
  | nil => exact .nil
  | cons c rest ih => exact .cons h.2.2.first_le_startLine (ih h.2.2)

/-- Each of the comments is between the two lines. -/
theorem within (h : InOrder first last xs) : ∀ c ∈ xs, c.Within first last := by
  induction xs generalizing first with
  | nil => simp
  | cons c rest ih =>
      obtain ⟨hfirst, hspan, hrest⟩ := h
      intro next hnext
      rcases List.mem_cons.mp hnext with rfl | hnext
      · exact ⟨hfirst, hspan, hrest.first_le_last⟩
      · exact ih (hrest.weaken_first (Nat.le_trans hfirst hspan)) next hnext

/-- Comments between two lines of which each starts behind the one before it. -/
theorem of_pairwise (hlast : first ≤ last) (hxs : ∀ c ∈ xs, c.Within first last)
    (hpairwise : xs.Pairwise fun c next => c.endLine ≤ next.startLine) :
    InOrder first last xs := by
  induction xs generalizing first with
  | nil => exact hlast
  | cons c rest ih =>
      obtain ⟨hc, hrest⟩ := List.pairwise_cons.mp hpairwise
      have hwithin := hxs c List.mem_cons_self
      refine ⟨hwithin.first_le, hwithin.start_le, ih hwithin.le_last ?_ hrest⟩
      intro next hnext
      exact { hxs next (List.mem_cons_of_mem _ hnext) with first_le := hc next hnext }

/-- One comment between two lines. -/
theorem single {c : Comment} (hfirst : first ≤ c.startLine)
    (hspan : c.startLine ≤ c.endLine) (hlast : c.endLine ≤ last) :
    InOrder first last [c] :=
  ⟨hfirst, hspan, hlast⟩

end InOrder

end Comment

end LicenseText
