import Mathlib.Data.List.MinMax
import Mathlib.Logic.Relation
import LicenseText.Proofs.License.Keywords

/-!
# How the license header is chosen

The header is the first comment with the SPDX tag. Where no comment has the tag it is the
first of the comments with the most keywords, and where no keyword occurs there is none
(`IsHeader`). The search keeps one candidate, and a later text takes its place only with
more keywords, so of several texts with the most keywords the first remains. String
literals have no part in it, wherever they stand.
-/

namespace LicenseText

/-- The comment has the property, and no comment in front of it does. -/
def IsFirst (p : Comment → Prop) (comments : List Comment) (c : Comment) : Prop :=
  p c ∧ ∃ earlier later, comments = earlier ++ c :: later ∧ ∀ d ∈ earlier, ¬p d

/-- No comment has more keywords. -/
def IsRichest (comments : List Comment) (c : Comment) : Prop :=
  ∀ d ∈ comments, keywordCount d.text ≤ keywordCount c.text

/-- The text that is to be chosen among comments, if any. -/
inductive IsHeader (comments : List Comment) : Option Text → Prop
  | tagged {c : Comment} (first : IsFirst (fun d => hasSpdxTag d.text = true) comments c) :
      IsHeader comments (some c.text)
  | richest {c : Comment} (untagged : ∀ d ∈ comments, hasSpdxTag d.text = false)
      (occurs : 0 < keywordCount c.text) (first : IsFirst (IsRichest comments) comments c) :
      IsHeader comments (some c.text)
  | absent (untagged : ∀ d ∈ comments, hasSpdxTag d.text = false)
      (poor : ∀ d ∈ comments, keywordCount d.text = 0) : IsHeader comments none

/-- One string literal more or less. A literal is moved by two such edits. -/
inductive StringEdit : List Item → List Item → Prop
  | insert (front : List Item) (s : StringLiteral) (behind : List Item) :
      StringEdit (front ++ behind) (front ++ .string s :: behind)
  | delete (front : List Item) (s : StringLiteral) (behind : List Item) :
      StringEdit (front ++ .string s :: behind) (front ++ behind)

/-! ## The first comment with a property -/

section First

variable {comments : List Comment} {c : Comment}

theorem exists_isFirst {p : Comment → Prop} (h : ∃ c ∈ comments, p c) :
    ∃ c, IsFirst p comments c := by
  induction comments with
  | nil =>
      obtain ⟨c, hc, -⟩ := h
      contradiction
  | cons d rest ih =>
      by_cases hd : p d
      · exact ⟨d, hd, [], rest, rfl, by simp⟩
      · have hrest : ∃ c ∈ rest, p c := ((List.exists_mem_cons_iff _ _ _).mp h).resolve_left hd
        obtain ⟨c, hc, earlier, later, rfl, hfirst⟩ := ih hrest
        exact ⟨c, hc, d :: earlier, later, rfl, List.forall_mem_cons.mpr ⟨hd, hfirst⟩⟩

theorem IsFirst.mem {p : Comment → Prop} (h : IsFirst p comments c) : c ∈ comments := by
  obtain ⟨-, earlier, later, rfl, -⟩ := h
  simp

theorem IsFirst.find? {q : Comment → Bool}
    (h : IsFirst (fun d => q d = true) comments c) : comments.find? q = some c := by
  obtain ⟨hc, earlier, later, heq, hfirst⟩ := h
  rw [List.find?_eq_some_iff_append]
  exact ⟨hc, earlier, later, heq, fun d hd => by simpa using hfirst d hd⟩

theorem exists_isRichest (hne : comments ≠ []) : ∃ c ∈ comments, IsRichest comments c := by
  let count : Comment → Nat := fun c => keywordCount c.text
  obtain ⟨c, hc⟩ : ∃ c, comments.argmax count = some c :=
    Option.ne_none_iff_exists'.mp fun hnone => hne (List.argmax_eq_none.mp hnone)
  exact ⟨c, List.argmax_mem hc, fun d hd => List.le_of_mem_argmax (f := count) hd hc⟩

/-- In front of the first of the richest comments, all have fewer keywords. -/
theorem IsFirst.keywordCount_lt {earlier later : List Comment}
    (hrichest : IsRichest (earlier ++ c :: later) c)
    (hfirst : ∀ d ∈ earlier, ¬IsRichest (earlier ++ c :: later) d) :
    ∀ d ∈ earlier, keywordCount d.text < keywordCount c.text := by
  intro d hd
  obtain ⟨e, he, hlt⟩ : ∃ e ∈ earlier ++ c :: later,
      keywordCount d.text < keywordCount e.text := by
    simpa [IsRichest] using hfirst d hd
  exact Nat.lt_of_lt_of_le hlt (hrichest e he)

end First

/-! ## The search -/

namespace Candidate

variable {best : Option Candidate} {text : Text} {texts : List Text} {n : Nat}

/-- The number of keywords that a text has to exceed. -/
def toBeat (best : Option Candidate) : Nat := (best.map Candidate.count).getD 0

theorem better_of_lt (h : toBeat best < keywordCount text) :
    better best text = some ⟨text, keywordCount text⟩ := if_pos h

theorem better_of_le (h : keywordCount text ≤ toBeat best) : better best text = best :=
  if_neg (Nat.not_lt.mpr h)

theorem toBeat_better_lt (hbest : toBeat best < n) (htext : keywordCount text < n) :
    toBeat (better best text) < n := by
  by_cases h : toBeat best < keywordCount text
  · rw [better_of_lt h]
    exact htext
  · rw [better_of_le (Nat.not_lt.mp h)]
    exact hbest

theorem toBeat_foldl_better_lt (hbest : toBeat best < n)
    (htexts : ∀ text ∈ texts, keywordCount text < n) :
    toBeat (texts.foldl better best) < n := by
  induction texts generalizing best with
  | nil => exact hbest
  | cons text texts ih =>
      rw [List.forall_mem_cons] at htexts
      exact ih (toBeat_better_lt hbest htexts.1) htexts.2

theorem foldl_better_of_le (h : ∀ text ∈ texts, keywordCount text ≤ toBeat best) :
    texts.foldl better best = best := by
  induction texts with
  | nil => rfl
  | cons text texts ih =>
      rw [List.forall_mem_cons] at h
      rw [List.foldl_cons, better_of_le h.1]
      exact ih h.2

/-- A text that is richer than all in front of it and no poorer than those behind it is
the candidate that remains. -/
theorem foldl_better_append {earlier later : List Text} (hpos : 0 < keywordCount text)
    (hearlier : ∀ front ∈ earlier, keywordCount front < keywordCount text)
    (hlater : ∀ behind ∈ later, keywordCount behind ≤ keywordCount text) :
    (earlier ++ text :: later).foldl better none = some ⟨text, keywordCount text⟩ := by
  have hfront : toBeat (earlier.foldl better none) < keywordCount text :=
    toBeat_foldl_better_lt hpos hearlier
  rw [List.foldl_append, List.foldl_cons, better_of_lt hfront]
  exact foldl_better_of_le hlater

end Candidate

theorem headerFrom?_of_untagged {best : Option Candidate} {texts : List Text}
    (h : ∀ text ∈ texts, hasSpdxTag text = false) :
    headerFrom? best texts = (texts.foldl Candidate.better best).map Candidate.text := by
  induction texts generalizing best with
  | nil => rfl
  | cons text rest ih =>
      rw [List.forall_mem_cons] at h
      rw [headerFrom?, if_neg (Bool.eq_false_iff.mp h.1), ih h.2, List.foldl_cons]

/-! ## The choice -/

section Choice

variable {items : List Item}

theorem header?_of_richest {c : Comment}
    (untagged : ∀ d ∈ commentsOf items, hasSpdxTag d.text = false)
    (occurs : 0 < keywordCount c.text)
    (first : IsFirst (IsRichest (commentsOf items)) (commentsOf items) c) :
    header? items = some c.text := by
  obtain ⟨hrichest, earlier, later, heq, hfirst⟩ := first
  rw [heq] at hrichest hfirst
  have hearlier := IsFirst.keywordCount_lt hrichest hfirst
  have hlater : ∀ d ∈ later, keywordCount d.text ≤ keywordCount c.text :=
    fun d hd => hrichest d (by simp [hd])
  have hremains := Candidate.foldl_better_append occurs
    (List.forall_mem_map.mpr hearlier) (List.forall_mem_map.mpr hlater)
  have hheader : header? items = headerFrom? none ((commentsOf items).map Comment.text) := rfl
  rw [hheader, headerFrom?_of_untagged (List.forall_mem_map.mpr untagged), heq,
    List.map_append, List.map_cons, hremains]
  rfl

theorem header?_of_isHeader {header : Option Text} (h : IsHeader (commentsOf items) header) :
    header? items = header := by
  cases h with
  | tagged first => exact header?_of_find? first.find?
  | richest untagged occurs first => exact header?_of_richest untagged occurs first
  | absent untagged poor => exact header?_eq_none_iff.mpr poor

theorem exists_isHeader (comments : List Comment) : ∃ header, IsHeader comments header := by
  by_cases htagged : ∃ c ∈ comments, hasSpdxTag c.text = true
  · obtain ⟨c, hc⟩ := exists_isFirst htagged
    exact ⟨_, .tagged hc⟩
  · have untagged : ∀ d ∈ comments, hasSpdxTag d.text = false := by simpa using htagged
    by_cases hpoor : ∀ d ∈ comments, keywordCount d.text = 0
    · exact ⟨none, .absent untagged hpoor⟩
    · obtain ⟨d, hd, hoccurs⟩ : ∃ d ∈ comments, 0 < keywordCount d.text := by
        simpa [Nat.pos_iff_ne_zero] using hpoor
      obtain ⟨c, hc⟩ := exists_isFirst (exists_isRichest (List.ne_nil_of_mem hd))
      exact ⟨_, .richest untagged (Nat.lt_of_lt_of_le hoccurs (hc.1 d hd)) hc⟩

theorem StringEdit.commentsOf_eq {others : List Item} (h : StringEdit items others) :
    commentsOf others = commentsOf items := by
  cases h with
  | insert front s behind => simp
  | delete front s behind => simp

/-- The header is the text of the first comment with the tag; where there is none, that of
the first comment with the most keywords; and where no keyword occurs, there is no header.
It stays the same when string literals are inserted, deleted or moved. -/
theorem header?_eq_iff_isHeader (items : List Item) (header : Option Text) :
    (header? items = header ↔ IsHeader (commentsOf items) header) ∧
      ∀ others, Relation.ReflTransGen StringEdit items others →
        header? others = header? items := by
  refine ⟨⟨?_, header?_of_isHeader⟩, ?_⟩
  · rintro rfl
    obtain ⟨header, hheader⟩ := exists_isHeader (commentsOf items)
    rwa [header?_of_isHeader hheader]
  · intro others hedits
    refine header?_congr ?_
    induction hedits with
    | refl => rfl
    | tail _ hedit ih => rw [hedit.commentsOf_eq, ih]

/-- A literal with the tag is moved behind two comments with as many keywords. -/
theorem header?_eq_iff_isHeader_of_tie :
    Relation.ReflTransGen StringEdit
        [.string ⟨"spdx-license-identifier".toList, 1⟩,
          .comment (.onLine "Copyright A".toList 2), .comment (.onLine "copyright B".toList 4)]
        [.comment (.onLine "Copyright A".toList 2), .comment (.onLine "copyright B".toList 4),
          .string ⟨"spdx-license-identifier".toList, 1⟩] ∧
      header? [.comment (.onLine "Copyright A".toList 2),
        .comment (.onLine "copyright B".toList 4),
        .string ⟨"spdx-license-identifier".toList, 1⟩] = some "Copyright A".toList := by
  have hdeleted := StringEdit.delete [] ⟨"spdx-license-identifier".toList, 1⟩
    [.comment (.onLine "Copyright A".toList 2), .comment (.onLine "copyright B".toList 4)]
  have hinserted := StringEdit.insert
    [.comment (.onLine "Copyright A".toList 2), .comment (.onLine "copyright B".toList 4)]
    ⟨"spdx-license-identifier".toList, 1⟩ []
  have hmoved := (Relation.ReflTransGen.single hdeleted).tail hinserted
  have hsame := (header?_eq_iff_isHeader _ none).2 _ hmoved
  exact ⟨hmoved, hsame.trans (by decide +kernel)⟩

end Choice

end LicenseText
