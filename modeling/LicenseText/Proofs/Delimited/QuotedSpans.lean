import Mathlib.Data.List.Basic
import Mathlib.Tactic.Choose
import LicenseText.Delimited.Reader
import LicenseText.Proofs.Item.Spans

/-!
# The quoted spans of a line

A quoted span stands at a place of a line (`Span.StandsIn`): between its two quotes there is
an interior, in which every backslash protects the character behind it. A line is scanned
when no more spans can be found between those that were found (`Scans`), and it can be
scanned in one way only, since a place has no more than one interior (`Scans.unique`). The
search from left to right finds these spans, on every line alike: what is a comment has no
part in it.
-/

namespace LicenseText

namespace Quoted

/-- What may stand between two quotes: characters that are neither the quote nor a
backslash, and backslashes with the character that each of them protects. -/
inductive IsInterior (quote : Char) : Text → Prop
  | nil : IsInterior quote []
  | plain {c : Char} {rest : Text} : c ≠ quote → c ≠ '\\' → IsInterior quote rest →
      IsInterior quote (c :: rest)
  | guarded {c : Char} {rest : Text} : c ≠ '\n' → IsInterior quote rest →
      IsInterior quote ('\\' :: c :: rest)

/-- A quoted span: the place of its first quote, and what stands between its quotes. -/
structure Span where
  start : Nat
  inside : Text

namespace Span

def stop (span : Span) : Nat := span.start + span.inside.length + 2

theorem start_lt_stop (span : Span) : span.start < span.stop := by
  rw [stop]
  omega

/-- At the place of the span there are a quote, an interior and a quote. -/
def StandsIn (quote : Char) (t : Text) (span : Span) : Prop :=
  IsInterior quote span.inside ∧ quote :: span.inside ++ [quote] <+: t.drop span.start

end Span

/-- The spans are those that are found in the text from the place `first` on: they stand in
it one behind the other, and at no place outside of them does a span start. -/
structure Scans (quote : Char) (t : Text) (first : Nat) (spans : List Span) : Prop where
  standsIn : ∀ span ∈ spans, span.StandsIn quote t
  first_le : ∀ span ∈ spans, first ≤ span.start
  disjoint : spans.Pairwise fun span next => span.stop ≤ next.start
  complete : ∀ place, first ≤ place →
    (∀ span ∈ spans, place < span.start ∨ span.stop ≤ place) →
    ∀ inside, ¬Span.StandsIn quote t ⟨place, inside⟩

variable {quote : Char} {t : Text} {span : Span} {spans : List Span}

/-! ## One span -/

theorem exists_of_closeFrom? {seen rest inside behind : Text}
    (h : closeFrom? quote seen rest = some (inside, behind)) :
    ∃ body, IsInterior quote body ∧ inside = seen.reverse ++ body ∧
      rest = body ++ quote :: behind := by
  fun_induction closeFrom? quote seen rest with
  | case1 => contradiction
  | case2 seen rest =>
      obtain ⟨rfl, rfl⟩ := Prod.mk.inj (Option.some.inj h)
      exact ⟨[], .nil, (List.append_nil _).symm, rfl⟩
  | case3 => contradiction
  | case4 => contradiction
  | case5 seen c rest hguarded hquote ih =>
      obtain ⟨body, hbody, rfl, rfl⟩ := ih h
      exact ⟨'\\' :: c :: body, .guarded hguarded hbody, by simp, rfl⟩
  | case6 seen c rest hquote hplain ih =>
      obtain ⟨body, hbody, rfl, rfl⟩ := ih h
      exact ⟨c :: body, .plain hquote hplain hbody, by simp, rfl⟩

theorem closeFrom?_append (hquote : quote ≠ '\\') {body : Text} (h : IsInterior quote body)
    (seen behind : Text) :
    closeFrom? quote seen (body ++ quote :: behind) = some (seen.reverse ++ body, behind) := by
  induction h generalizing seen with
  | nil =>
      rw [List.nil_append, closeFrom?.eq_def]
      simp
  | plain hne hplain _ ih =>
      rw [List.cons_append, closeFrom?.eq_def]
      simp [hne, hplain, ih]
  | guarded hguarded _ ih =>
      rw [List.cons_append, List.cons_append, closeFrom?.eq_def]
      simp [hquote.symm, hguarded, ih]

namespace Span.StandsIn

theorem drop_start (h : span.StandsIn quote t) :
    t.drop span.start = quote :: span.inside ++ quote :: t.drop span.stop := by
  obtain ⟨-, behind, hbehind⟩ := h
  have hstop : t.drop span.stop = behind := by
    rw [stop, Nat.add_assoc, ← List.drop_drop, ← hbehind]
    exact List.drop_left' (by simp)
  rw [hstop, ← hbehind]
  simp

theorem closeFrom?_eq (hquote : quote ≠ '\\') (h : span.StandsIn quote t) {rest : Text}
    (hrest : t.drop span.start = quote :: rest) :
    closeFrom? quote [] rest = some (span.inside, t.drop span.stop) := by
  rw [h.drop_start, List.cons_append] at hrest
  rw [← (List.cons.inj hrest).2]
  exact closeFrom?_append hquote h.1 [] _

/-- Spans at the same place are the same. -/
theorem inside_unique (hquote : quote ≠ '\\') {place : Nat} {xs ys : Text}
    (hxs : StandsIn quote t ⟨place, xs⟩) (hys : StandsIn quote t ⟨place, ys⟩) : xs = ys := by
  have hx := hxs.closeFrom?_eq hquote hxs.drop_start
  have hy := hys.closeFrom?_eq hquote hxs.drop_start
  exact (Prod.mk.inj (Option.some.inj (hx.symm.trans hy))).1

end Span.StandsIn

theorem standsIn_of_closeFrom? {first : Nat} {rest inside behind : Text}
    (hfirst : t.drop first = quote :: rest)
    (h : closeFrom? quote [] rest = some (inside, behind)) :
    Span.StandsIn quote t ⟨first, inside⟩ := by
  obtain ⟨body, hbody, rfl, rfl⟩ := exists_of_closeFrom? h
  refine ⟨hbody, behind, ?_⟩
  rw [hfirst]
  simp

/-! ## All spans -/

namespace Scans

variable {first : Nat}

theorem nil (h : t.drop first = []) : Scans quote t first [] where
  standsIn := by simp
  first_le := by simp
  disjoint := .nil
  complete := by
    intro place hplace _ inside hstands
    have hnil : t.drop place = [] := by
      rw [List.drop_eq_nil_iff] at h ⊢
      exact Nat.le_trans h hplace
    have hstart := hstands.drop_start
    rw [hnil] at hstart
    contradiction

/-- A place at which no span starts is passed over. -/
theorem pass (h : Scans quote t (first + 1) spans)
    (hnone : ∀ inside, ¬Span.StandsIn quote t ⟨first, inside⟩) :
    Scans quote t first spans where
  standsIn := h.standsIn
  first_le := fun span hspan => Nat.le_of_succ_le (h.first_le span hspan)
  disjoint := h.disjoint
  complete := by
    intro place hplace houtside
    rcases Nat.eq_or_lt_of_le hplace with rfl | hlater
    · exact hnone
    · exact h.complete place hlater houtside

/-- Behind a span the search goes on. -/
theorem cons (hspan : span.StandsIn quote t) (h : Scans quote t span.stop spans) :
    Scans quote t span.start (span :: spans) where
  standsIn := List.forall_mem_cons.mpr ⟨hspan, h.standsIn⟩
  first_le := by
    refine List.forall_mem_cons.mpr ⟨Nat.le_refl _, fun next hnext => ?_⟩
    exact Nat.le_trans (Nat.le_of_lt span.start_lt_stop) (h.first_le next hnext)
  disjoint := .cons h.first_le h.disjoint
  complete := by
    intro place hplace houtside
    obtain ⟨hhead, hrest⟩ := List.forall_mem_cons.mp houtside
    rcases hhead with hbefore | hbehind
    · exact absurd hplace (Nat.not_le.mpr hbefore)
    · exact h.complete place hbehind hrest

/-- The spans behind the first one are those that are found from its end on. -/
theorem tail (h : Scans quote t first (span :: spans)) : Scans quote t span.stop spans where
  standsIn := (List.forall_mem_cons.mp h.standsIn).2
  first_le := (List.pairwise_cons.mp h.disjoint).1
  disjoint := (List.pairwise_cons.mp h.disjoint).2
  complete := by
    intro place hplace houtside
    have hfirst : first ≤ place := calc
      first ≤ span.start := h.first_le span List.mem_cons_self
      _ ≤ span.stop := Nat.le_of_lt span.start_lt_stop
      _ ≤ place := hplace
    exact h.complete place hfirst (List.forall_mem_cons.mpr ⟨.inr hplace, houtside⟩)

/-- No span starts before the first one that is found. -/
theorem start_le_place (h : Scans quote t first (span :: spans)) {place : Nat}
    (hplace : first ≤ place) {inside : Text}
    (hstands : Span.StandsIn quote t ⟨place, inside⟩) : span.start ≤ place := by
  by_contra hbefore
  have hplace_lt : place < span.start := Nat.not_le.mp hbefore
  refine h.complete place hplace ?_ inside hstands
  intro next hnext
  left
  rcases List.mem_cons.mp hnext with rfl | hnext
  · exact hplace_lt
  · exact Nat.lt_of_lt_of_le (Nat.lt_trans hplace_lt span.start_lt_stop)
      (h.tail.first_le next hnext)

/-- There is one way to scan a text. -/
theorem unique (hquote : quote ≠ '\\') {xs ys : List Span} (hxs : Scans quote t first xs)
    (hys : Scans quote t first ys) : xs = ys := by
  induction xs generalizing first ys with
  | nil =>
      cases ys with
      | nil => rfl
      | cons y ys =>
          have hstands := hys.standsIn y List.mem_cons_self
          exact absurd hstands
            (hxs.complete y.start (hys.first_le y List.mem_cons_self) (by simp) y.inside)
  | cons x xs ih =>
      have hx := hxs.standsIn x List.mem_cons_self
      have hfirst := hxs.first_le x List.mem_cons_self
      cases ys with
      | nil => exact absurd hx (hys.complete x.start hfirst (by simp) x.inside)
      | cons y ys =>
          have hy := hys.standsIn y List.mem_cons_self
          have hstart : x.start = y.start := Nat.le_antisymm
            (hxs.start_le_place (hys.first_le y List.mem_cons_self) hy)
            (hys.start_le_place hfirst hx)
          obtain ⟨place, xinside⟩ := x
          obtain ⟨_, yinside⟩ := y
          subst hstart
          obtain rfl := Span.StandsIn.inside_unique hquote hx hy
          rw [ih hxs.tail hys.tail]

end Scans

theorem drop_succ_of_drop {first : Nat} {c : Char} {rest : Text}
    (h : t.drop first = c :: rest) : t.drop (first + 1) = rest := by
  rw [← List.drop_drop, h, List.drop_one, List.tail_cons]

/-- The search finds the spans of the text, from the place at which it starts. -/
theorem exists_scans_interiorsFrom (hquote : quote ≠ '\\') {first : Nat} {found : List Text}
    {rest : Text} (hrest : t.drop first = rest) :
    ∃ spans, Scans quote t first spans ∧
      interiorsFrom quote found rest = found.reverse ++ spans.map Span.inside := by
  fun_induction interiorsFrom quote found rest generalizing first with
  | case1 found => exact ⟨[], Scans.nil hrest, (List.append_nil _).symm⟩
  | case2 found rest inside behind hclose _ ih =>
      have hstands := standsIn_of_closeFrom? hrest hclose
      have hbehind := hstands.closeFrom?_eq hquote hrest
      rw [hclose] at hbehind
      obtain ⟨spans, hscans, hfound⟩ := ih (Prod.mk.inj (Option.some.inj hbehind)).2.symm
      exact ⟨⟨first, inside⟩ :: spans, hscans.cons hstands, by simp [hfound]⟩
  | case3 found rest hclose ih =>
      obtain ⟨spans, hscans, hfound⟩ := ih (drop_succ_of_drop hrest)
      refine ⟨spans, hscans.pass ?_, hfound⟩
      intro inside hstands
      have hclosed := hstands.closeFrom?_eq hquote hrest
      rw [hclose] at hclosed
      contradiction
  | case4 found c rest hne ih =>
      obtain ⟨spans, hscans, hfound⟩ := ih (drop_succ_of_drop hrest)
      refine ⟨spans, hscans.pass ?_, hfound⟩
      intro inside hstands
      have hstart := hstands.drop_start
      rw [hrest, List.cons_append] at hstart
      exact hne (List.cons.inj hstart).1

theorem exists_scans (quote : Char) (hquote : isQuote quote = true) (t : Text) :
    ∃ spans, (∀ found, Scans quote t 0 found ↔ found = spans) ∧
      interiors quote t = spans.map Span.inside := by
  have hne : quote ≠ '\\' := by
    rintro rfl
    contradiction
  obtain ⟨spans, hscans, hinteriors⟩ :=
    @exists_scans_interiorsFrom quote t hne 0 [] t List.drop_zero
  refine ⟨spans, fun found => ⟨fun hfound => hfound.unique hne hscans, ?_⟩, hinteriors⟩
  rintro rfl
  exact hscans

/-- What is inside the spans of a line, for one quote after another. -/
def literalsOf (spans : Char → Text → List Span) (quotes : List Char) (line : NumberedLine) :
    List StringLiteral :=
  (quotes.filter isQuote).flatMap fun quote =>
    (spans quote line.text).map fun span => ⟨span.inside, line.number⟩

theorem strings_eq_literalsOf {spans : Char → Text → List Span}
    (h : ∀ quote, isQuote quote = true → ∀ t,
      interiors quote t = (spans quote t).map Span.inside)
    (quotes : List Char) (line : NumberedLine) :
    strings quotes line = literalsOf spans quotes line := by
  rw [strings, literalsOf]
  refine List.flatMap_congr fun quote hquote => ?_
  rw [h quote (List.mem_filter.mp hquote).2, List.map_map]
  rfl

/-- The backslash in front of the line protects nothing, and the last quote closes nothing. -/
example : interiors '"' "\\\"a\\\"b\" \"c".toList = ["a\\\"b".toList] := by
  cbv

end Quoted

namespace Delimited

variable {delimiters : DelimitedSyntax}

theorem stringsOf_reportedStrings (delimiters : DelimitedSyntax) (line : NumberedLine) :
    stringsOf (Progress.reportedStrings delimiters true line) =
      Quoted.strings delimiters.quotes line := by
  rw [Progress.reportedStrings, if_pos rfl, stringsOf, List.filterMap_map]
  exact List.filterMap_some

/-- Whatever has been read, a line adds its own strings. -/
theorem stringsOf_step (progress : Progress) (line : NumberedLine) :
    stringsOf (progress.step delimiters true line).found.reverse =
      stringsOf progress.found.reverse ++ Quoted.strings delimiters.quotes line := by
  rw [Progress.step, List.reverse_append, List.reverse_reverse, stringsOf_append,
    stringsOf_append, stringsOf_map_comment, stringsOf_reportedStrings, List.nil_append]

theorem stringsOf_foldl (progress : Progress) (lines : List NumberedLine) :
    stringsOf (lines.foldl (Progress.step delimiters true) progress).found.reverse =
      stringsOf progress.found.reverse ++
        lines.flatMap (Quoted.strings delimiters.quotes) := by
  induction lines generalizing progress with
  | nil => simp
  | cons line rest ih =>
      rw [List.foldl_cons, ih, stringsOf_step, List.append_assoc, List.flatMap_cons]

theorem stringsOf_read (delimiters : DelimitedSyntax) (policy : OpenBlockPolicy)
    (content : Text) :
    stringsOf (read delimiters true policy content) =
      (readableLines content).flatMap (Quoted.strings delimiters.quotes) := by
  rw [read, Progress.finish, stringsOf_append, stringsOf_foldl, stringsOf_map_comment,
    List.append_nil]
  rfl

open Quoted in
/-- A line can be scanned for the spans of a quote in one way only, and the strings of a
document are what is inside the spans of its lines. What a line adds to them depends on its
own text, its number and the quotes alone, not on the delimiters of comments and not on
whether a block is open. -/
theorem stringsOf_read_eq_literalsOf :
    ∃ spans : Char → Text → List Span,
      (∀ quote, isQuote quote = true → ∀ t found,
        Scans quote t 0 found ↔ found = spans quote t) ∧
      (∀ delimiters policy content,
        stringsOf (read delimiters true policy content) =
          (readableLines content).flatMap (literalsOf spans delimiters.quotes)) ∧
      ∀ (delimiters : DelimitedSyntax) (progress : Progress) (line : NumberedLine),
        stringsOf (progress.step delimiters true line).found.reverse =
          stringsOf progress.found.reverse ++ literalsOf spans delimiters.quotes line := by
  choose! spans hscans hinteriors using exists_scans
  have hstrings := strings_eq_literalsOf hinteriors
  refine ⟨spans, hscans, ?_, ?_⟩
  · intro delimiters policy content
    rw [stringsOf_read, funext (hstrings delimiters.quotes)]
  · intro delimiters progress line
    rw [stringsOf_step, hstrings]

end Delimited

end LicenseText
