import Mathlib.Data.Finset.Card
import LicenseText.Proofs.Text.ByteOrder
import LicenseText.Report.Terminal

/-!
# The summary of types

The types of the relevant files are counted in a table, one file after the other, and the
entries of the table are sorted. No two entries tie, since two types with the same number of
files have different names, so neither the order of the files nor that of the entries makes
a difference. The two entries that come first, or the only one, are shown.
-/

namespace LicenseText

theorem FileType.ofName?_name (type : FileType) : ofName? type.name = some type := by
  cases type <;> rfl

theorem FileType.name_inj {type other : FileType} (h : type.name = other.name) :
    type = other := by
  have hsome := ofName?_name type
  rw [h, ofName?_name] at hsome
  exact (Option.some.inj hsome).symm

theorem FileType.mem_all (type : FileType) : type ∈ all := by
  cases type <;> decide

namespace Report

def relevantTypes (reports : List Report) : List FileType :=
  (reports.filter fun report => report.status = .relevant).map Report.type

/-! ## Tables of counts -/

/-- The entries are those of a table that gives to each type in the list the number of its
occurrences, in any order. -/
structure Tallies (types : List FileType) (entries : List (FileType × Nat)) : Prop where
  nodup : (entries.map Prod.fst).Nodup
  mem_iff : ∀ type count, (type, count) ∈ entries ↔ type ∈ types ∧ count = types.count type

def bump (type : FileType) : List (FileType × Nat) → List (FileType × Nat)
  | [] => [(type, 1)]
  | (other, count) :: rest =>
    if other = type then (other, count + 1) :: rest else (other, count) :: bump type rest

/-- The table of the types in a list, counted one after the other. -/
def tally (types : List FileType) : List (FileType × Nat) :=
  types.foldl (fun entries type => bump type entries) []

section Tallies

variable {type other : FileType} {count : Nat} {types front : List FileType}
variable {entries first second : List (FileType × Nat)}

theorem mem_bump_of_ne (hne : other ≠ type) :
    (other, count) ∈ bump type entries ↔ (other, count) ∈ entries := by
  induction entries with
  | nil => simp [bump, hne]
  | cons entry rest ih =>
      rw [bump]
      split
      · rename_i heq
        rw [List.mem_cons, List.mem_cons, Prod.mk.injEq]
        have hentry : (other, count) ≠ entry := by
          rintro rfl
          exact hne heq
        simp [hentry, heq, hne]
      · rw [List.mem_cons, List.mem_cons, ih]

theorem mem_bump_self (hnodup : (entries.map Prod.fst).Nodup) :
    (type, count) ∈ bump type entries ↔
      (type ∉ entries.map Prod.fst ∧ count = 1) ∨
        ∃ before, (type, before) ∈ entries ∧ count = before + 1 := by
  induction entries with
  | nil => simp [bump]
  | cons entry rest ih =>
      obtain ⟨key, before⟩ := entry
      obtain ⟨hkey, hrest⟩ := List.nodup_cons.mp hnodup
      rw [bump]
      split
      · rename_i heq
        obtain rfl := heq
        have hfresh : ∀ n, (key, n) ∉ rest := by
          intro n hmem
          exact hkey (List.mem_map.mpr ⟨(key, n), hmem, rfl⟩)
        simp [hfresh]
      · rename_i hne
        rw [List.mem_cons, ih hrest]
        simp [Ne.symm hne]

theorem map_fst_bump (type : FileType) (entries : List (FileType × Nat)) :
    (bump type entries).map Prod.fst =
      if type ∈ entries.map Prod.fst then entries.map Prod.fst
      else entries.map Prod.fst ++ [type] := by
  induction entries with
  | nil => rfl
  | cons entry rest ih =>
      rw [bump]
      split
      · rename_i heq
        simp [heq]
      · rename_i hne
        rw [List.map_cons, ih]
        by_cases hmem : type ∈ rest.map Prod.fst
        · simp [hmem]
        · simp [hmem, Ne.symm hne]

theorem Tallies.mem_map_fst_iff (h : Tallies types entries) :
    type ∈ entries.map Prod.fst ↔ type ∈ types := by
  constructor
  · intro hmem
    obtain ⟨⟨key, count⟩, hentry, rfl⟩ := List.mem_map.mp hmem
    exact ((h.mem_iff key count).mp hentry).1
  · intro hmem
    exact List.mem_map_of_mem ((h.mem_iff type _).mpr ⟨hmem, rfl⟩)

/-- Counting one more type keeps a table a table of counts. -/
theorem Tallies.bump (h : Tallies front entries) (type : FileType) :
    Tallies (front ++ [type]) (bump type entries) where
  nodup := by
    rw [map_fst_bump]
    split
    · exact h.nodup
    · rename_i hnew
      have hdifferent : ∀ key ∈ entries.map Prod.fst, ∀ last ∈ [type], key ≠ last := by
        rintro key hkey last hlast rfl
        exact hnew (List.mem_singleton.mp hlast ▸ hkey)
      exact List.nodup_append.mpr ⟨h.nodup, List.nodup_singleton type, hdifferent⟩
  mem_iff := by
    intro other count
    by_cases hne : other = type
    · subst hne
      rw [mem_bump_self h.nodup, h.mem_map_fst_iff, List.count_append]
      simp only [h.mem_iff]
      by_cases hmem : other ∈ front
      · simp [hmem]
      · simp [hmem, List.count_eq_zero.mpr hmem]
    · rw [mem_bump_of_ne hne, h.mem_iff, List.count_append]
      simp [hne, Ne.symm hne]

theorem Tallies.foldl_bump (h : Tallies front entries) (types : List FileType) :
    Tallies (front ++ types)
      (types.foldl (fun entries type => Report.bump type entries) entries) := by
  induction types generalizing front entries with
  | nil => rwa [List.append_nil]
  | cons type rest ih =>
      rw [List.append_cons]
      exact ih (h.bump type)

theorem tallies_tally (types : List FileType) : Tallies types (tally types) := by
  have hempty : Tallies [] [] := ⟨List.nodup_nil, by simp⟩
  exact hempty.foldl_bump types

/-- Two tables of the same types have the same entries. -/
theorem Tallies.perm (hfirst : Tallies types first) (hsecond : Tallies types second) :
    first.Perm second := by
  rw [List.perm_ext_iff_of_nodup hfirst.nodup.of_map hsecond.nodup.of_map]
  rintro ⟨type, count⟩
  rw [hfirst.mem_iff, hsecond.mem_iff]

theorem Tallies.of_perm (h : Tallies types first) (hperm : second.Perm first) :
    Tallies types second where
  nodup := (hperm.map Prod.fst).nodup_iff.mpr h.nodup
  mem_iff := fun type count => by rw [hperm.mem_iff, h.mem_iff]

/-- A table does not depend on the order in which the types are counted. -/
theorem Tallies.types_perm (h : Tallies types entries) (hperm : types.Perm front) :
    Tallies front entries where
  nodup := h.nodup
  mem_iff := fun type count => by
    rw [h.mem_iff, hperm.mem_iff, List.perm_iff_count.mp hperm type]

end Tallies

/-! ## The order of the entries -/

/-- The entry comes first: it has the larger count, or the same count and a name that stands
first in the order of bytes. -/
def Outranks (a b : FileType × Nat) : Prop :=
  b.2 < a.2 ∨ a.2 = b.2 ∧ a.1.name.ByteBefore b.1.name

section Order

variable {a b c : FileType × Nat} {types : List FileType}
variable {entries first second : List (FileType × Nat)}

theorem typePrecedes_iff :
    typePrecedes a b = true ↔ b.2 < a.2 ∨ a.2 = b.2 ∧ a.1.name.sortsBefore b.1.name := by
  rw [typePrecedes, Bool.or_eq_true, Bool.and_eq_true, decide_eq_true_eq, beq_iff_eq]

theorem typePrecedes_trans (a b c : FileType × Nat) (hab : typePrecedes a b)
    (hbc : typePrecedes b c) : typePrecedes a c := by
  rw [typePrecedes_iff] at hab hbc ⊢
  rcases hab with hab | ⟨hab, hnames⟩
  · rcases hbc with hbc | ⟨hbc, -⟩
    · exact .inl (Nat.lt_trans hbc hab)
    · exact .inl (hbc ▸ hab)
  · exact hbc.imp (fun hbc => hab ▸ hbc) fun hbc =>
      ⟨hab.trans hbc.1, Text.sortsBefore_trans hnames hbc.2⟩

theorem typePrecedes_total (a b : FileType × Nat) :
    (typePrecedes a b || typePrecedes b a) = true := by
  rw [Bool.or_eq_true, typePrecedes_iff, typePrecedes_iff]
  rcases Nat.lt_trichotomy a.2 b.2 with hlt | heq | hgt
  · exact .inr (.inl hlt)
  · have hnames := Text.sortsBefore_total a.1.name b.1.name
    rw [Bool.or_eq_true] at hnames
    exact hnames.imp (fun h => .inr ⟨heq, h⟩) fun h => .inr ⟨heq.symm, h⟩
  · exact .inl (.inl hgt)

theorem outranks_of_typePrecedes (h : typePrecedes a b = true) (hne : a.1 ≠ b.1) :
    Outranks a b :=
  (typePrecedes_iff.mp h).imp_right fun ⟨hcount, hname⟩ =>
    ⟨hcount, Text.byteBefore_of_sortsBefore hname fun heq => hne (FileType.name_inj heq)⟩

theorem Outranks.asymm (hab : Outranks a b) : ¬Outranks b a := by
  rcases hab with hab | ⟨hab, hname⟩
  · rintro (hba | ⟨hba, -⟩)
    · omega
    · omega
  · rintro (hba | ⟨-, hba⟩)
    · omega
    · exact Text.byteBefore_asymm hname hba

/-- Sorted entries outrank those behind them. -/
theorem Tallies.pairwise_outranks (h : Tallies types entries) :
    (entries.mergeSort typePrecedes).Pairwise Outranks := by
  have hsorted : (entries.mergeSort typePrecedes).Pairwise fun a b => typePrecedes a b = true :=
    List.pairwise_mergeSort typePrecedes_trans typePrecedes_total entries
  have hdifferent := (h.of_perm (List.mergeSort_perm entries typePrecedes)).nodup
  rw [List.Nodup, List.pairwise_map] at hdifferent
  exact hsorted.imp₂ (fun _ _ => outranks_of_typePrecedes) hdifferent

/-- The order of the entries of a table is lost when they are sorted. -/
theorem Tallies.mergeSort_eq (hfirst : Tallies types first) (hsecond : Tallies types second) :
    first.mergeSort typePrecedes = second.mergeSort typePrecedes := by
  refine List.Perm.eq_of_pairwise (fun a b _ _ hab hba => absurd hba hab.asymm)
    hfirst.pairwise_outranks hsecond.pairwise_outranks ?_
  exact (List.mergeSort_perm _ _).trans
    ((hfirst.perm hsecond).trans (List.mergeSort_perm _ _).symm)

end Order

/-! ## What is shown -/

/-- The entries are the two that come first among the types in a list, or all if there are
fewer types, with the number of occurrences of each type. -/
structure Leads (types : List FileType) (shown : List (FileType × Nat)) : Prop where
  length_eq : shown.length = min 2 types.toFinset.card
  counted : ∀ entry ∈ shown, entry.1 ∈ types ∧ entry.2 = types.count entry.1
  sorted : shown.Pairwise Outranks
  leading : ∀ type ∈ types, type ∉ shown.map Prod.fst →
    ∀ entry ∈ shown, Outranks entry (type, types.count type)

def shownCounts (shown : List (FileType × Nat)) : Text :=
  '[' :: ", ".toList.intercalate (shown.map showTypeCount) ++ [']']

/-- The summary that is made from the entries of a table. -/
def summaryOf (entries : List (FileType × Nat)) : Text :=
  let shown := (entries.mergeSort typePrecedes).take 2
  if shown.isEmpty then [] else shownCounts shown

section Summary

variable {types : List FileType} {entries : List (FileType × Nat)} {reports others : List Report}

theorem Tallies.leads (h : Tallies types entries) :
    Leads types ((entries.mergeSort typePrecedes).take 2) where
  length_eq := by
    have hkeys : (entries.map Prod.fst).toFinset = types.toFinset := by
      ext type
      rw [List.mem_toFinset, List.mem_toFinset, h.mem_map_fst_iff]
    rw [List.length_take, List.length_mergeSort, ← hkeys,
      List.toFinset_card_of_nodup h.nodup, List.length_map]
  counted := by
    rintro ⟨type, count⟩ hentry
    exact (h.mem_iff type count).mp (List.mem_mergeSort.mp (List.mem_of_mem_take hentry))
  sorted := h.pairwise_outranks.take
  leading := by
    intro type htype hshown entry hentry
    have hsorted := h.pairwise_outranks
    rw [← List.take_append_drop 2 (entries.mergeSort typePrecedes), List.pairwise_append]
      at hsorted
    have hmem : (type, types.count type) ∈ entries.mergeSort typePrecedes :=
      List.mem_mergeSort.mpr ((h.mem_iff type _).mpr ⟨htype, rfl⟩)
    rw [← List.take_append_drop 2 (entries.mergeSort typePrecedes), List.mem_append] at hmem
    exact hsorted.2.2 entry hentry _
      (hmem.resolve_left fun hfront => hshown (List.mem_map_of_mem hfront))

theorem Leads.eq_nil_iff {shown : List (FileType × Nat)} (h : Leads types shown) :
    shown = [] ↔ types = [] := by
  rw [← List.length_eq_zero_iff, h.length_eq, Nat.min_eq_zero_iff, or_iff_right (by decide),
    Finset.card_eq_zero, List.toFinset_eq_empty_iff]

/-- The types are counted as in a table, whatever its order. -/
theorem tallies_typeCounts (reports : List Report) :
    Tallies (relevantTypes reports) (typeCounts reports) := by
  have hcount : ∀ type, (relevantReports reports).countP (fun report => report.type == type) =
      (relevantTypes reports).count type := by
    intro type
    rw [relevantTypes, List.count_eq_countP, List.countP_map]
    rfl
  have hentry : ∀ type entry,
      (if (relevantTypes reports).count type = 0 then none
        else some (type, (relevantTypes reports).count type)) = some entry ↔
      type ∈ relevantTypes reports ∧ entry = (type, (relevantTypes reports).count type) := by
    intro type entry
    by_cases hmem : type ∈ relevantTypes reports
    · rw [if_neg (mt List.count_eq_zero.mp (not_not_intro hmem)), Option.some.injEq,
        and_iff_right hmem, eq_comm]
    · simp [List.count_eq_zero, hmem]
  simp only [typeCounts, hcount]
  constructor
  · have hall : FileType.all.Pairwise (· ≠ ·) := by decide
    rw [List.Nodup, List.pairwise_map, List.pairwise_filterMap]
    refine hall.imp fun hne first hfirst second hsecond => ?_
    rw [((hentry _ first).mp hfirst).2, ((hentry _ second).mp hsecond).2]
    exact hne
  · intro type count
    simp only [List.mem_filterMap, hentry, Prod.mk.injEq]
    constructor
    · rintro ⟨other, -, hmem, rfl, rfl⟩
      exact ⟨hmem, rfl⟩
    · rintro ⟨hmem, rfl⟩
      exact ⟨type, FileType.mem_all type, hmem, rfl, rfl⟩

/-- The summary may be made from any table of the types. -/
theorem typeSummary_eq_summaryOf (h : Tallies (relevantTypes reports) entries) :
    typeSummary reports = summaryOf entries := by
  have hcounts : typeSummary reports = summaryOf (typeCounts reports) := rfl
  rw [hcounts, summaryOf, summaryOf, (tallies_typeCounts reports).mergeSort_eq h]

theorem exists_leads (reports : List Report) :
    ∃ shown, Leads (relevantTypes reports) shown ∧
      typeSummary reports = if shown = [] then [] else shownCounts shown := by
  refine ⟨_, (tallies_typeCounts reports).leads, ?_⟩
  rw [typeSummary_eq_summaryOf (tallies_typeCounts reports), summaryOf]
  simp only [List.isEmpty_iff]

theorem relevantTypes_eq_nil_iff :
    relevantTypes reports = [] ↔ ∀ report ∈ reports, report.status ≠ .relevant := by
  rw [relevantTypes, List.map_eq_nil_iff, List.filter_eq_nil_iff]
  simp

/-- The summary depends on nothing but how often each type occurs among the relevant files:
neither on the order of the files nor on that of the entries of the table in which they are
counted. It is empty exactly when no file is relevant, and else shows the two types that come
first, or the only one. -/
theorem typeSummary_shows_leading (reports : List Report) :
    (∀ others, (relevantTypes others).Perm (relevantTypes reports) →
        typeSummary others = typeSummary reports) ∧
      (∀ others, others.Perm reports → typeSummary others = typeSummary reports) ∧
      (∀ entries, entries.Perm (tally (relevantTypes reports)) →
        typeSummary reports = summaryOf entries) ∧
      (typeSummary reports = [] ↔ ∀ report ∈ reports, report.status ≠ .relevant) ∧
      ((∃ report ∈ reports, report.status = .relevant) →
        ∃ shown, Leads (relevantTypes reports) shown ∧
          typeSummary reports = shownCounts shown) := by
  have htypes : ∀ others, (relevantTypes others).Perm (relevantTypes reports) →
      typeSummary others = typeSummary reports := by
    intro others hperm
    have hothers := (tallies_typeCounts others).types_perm hperm
    rw [typeSummary_eq_summaryOf (tallies_typeCounts others), typeSummary_eq_summaryOf hothers]
  obtain ⟨shown, hleads, hsummary⟩ := exists_leads reports
  refine ⟨htypes, ?_, ?_, ?_, ?_⟩
  · intro others hperm
    exact htypes others ((hperm.filter _).map _)
  · intro entries hperm
    exact typeSummary_eq_summaryOf ((tallies_tally _).of_perm hperm)
  · rw [hsummary, ← relevantTypes_eq_nil_iff, ← hleads.eq_nil_iff]
    by_cases hshown : shown = []
    · simp [hshown]
    · simp [hshown, shownCounts]
  · rintro ⟨report, hreport, hrelevant⟩
    have hne : shown ≠ [] := by
      rw [ne_eq, hleads.eq_nil_iff, relevantTypes_eq_nil_iff]
      exact fun h => h report hreport hrelevant
    rw [if_neg hne] at hsummary
    exact ⟨shown, hleads, hsummary⟩

/-- Two files of one type and one of another, beside a file that is not relevant. -/
theorem typeSummary_shows_leading_of_three :
    let reports := [empty [0x61] .python .relevant, empty [0x62] .c .relevant,
      empty [0x63] .shell .clean, empty [0x64] .c .relevant]
    let others := [empty [0x65] .c .relevant, empty [0x66] .c .relevant,
      empty [0x67] .python .relevant]
    ((relevantTypes others).Perm (relevantTypes reports) ∧
        typeSummary others = typeSummary reports) ∧
      (reports.reverse.Perm reports ∧ typeSummary reports.reverse = typeSummary reports) ∧
      ([(.c, 2), (.python, 1)].Perm (tally (relevantTypes reports)) ∧
        typeSummary reports = summaryOf [(.c, 2), (.python, 1)]) ∧
      (∃ report ∈ reports, report.status = .relevant) ∧
      ∃ shown, Leads (relevantTypes reports) shown ∧ typeSummary reports = shownCounts shown := by
  intro reports others
  have htypes : (relevantTypes others).Perm (relevantTypes reports) := by decide
  have hentries : [(.c, 2), (.python, 1)].Perm (tally (relevantTypes reports)) := by decide
  have hrelevant : ∃ report ∈ reports, report.status = .relevant := by decide
  obtain ⟨hothers, hperm, hsummary, -, hshown⟩ := typeSummary_shows_leading reports
  exact ⟨⟨htypes, hothers others htypes⟩,
    ⟨reports.reverse_perm, hperm _ reports.reverse_perm⟩,
    ⟨hentries, hsummary _ hentries⟩, hrelevant, hshown hrelevant⟩

end Summary

end Report

end LicenseText
