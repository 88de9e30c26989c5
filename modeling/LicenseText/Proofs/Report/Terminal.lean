import Mathlib.Data.List.Nodup
import LicenseText.Proofs.Report.CountLines

/-!
# What the terminal report shows

The status of a file decides under which of three titles it belongs, and a table without
files is left out. A verbose report has every file in one of its tables, and any other report
that is not quiet has the files with relevant text and those that were refused. The five
counts add up to the number of files.
-/

namespace LicenseText

namespace Report

inductive Group where
  | failed
  | license
  | other
  deriving Repr, DecidableEq

namespace Group

/-- The title under which the files with a status belong. -/
def ofStatus : Status → Group
  | .failed _ => .failed
  | .relevant => .license
  | .clean | .unsupported | .skipped _ => .other

def title (color : Bool) : Group → Text
  | .failed => Emphasis.boldRed.apply color "[FAILED]".toList
  | .license => Emphasis.boldGreen.apply color "[LICENSE]".toList
  | .other => Emphasis.bold.apply color "[OTHER]".toList

def description : Group → Text
  | .failed => "Files the XML reader rejected:".toList
  | .license => "Files with license-relevant text:".toList
  | .other => "Remaining files:".toList

end Group

/-- A table of the terminal report: its title and the reports in its rows. -/
abbrev TitledRows := Group × List Report

/-- A table with its title, whether or not it has rows. -/
def tableText (color : Bool) (table : TitledRows) : Text :=
  ' ' :: table.1.title color ++ ' ' :: table.1.description ++ "\n\n".toList
    ++ Table.render headings (table.2.map tableRow) ++ ['\n']

def rowsBelow (group : Group) (tables : List TitledRows) : List Report :=
  (tables.filter fun table => table.1 = group).flatMap Prod.snd

/-- The tables have each of the shown reports in one row, below the title to which its status
belongs and in the order of all reports. There is no table without rows, and below the first
two titles there are as many rows as the counts say. -/
structure Accounts (reports shown : List Report) (tables : List TitledRows) : Prop where
  titles : (tables.map Prod.fst).Sublist [.failed, .license, .other]
  rows_ne_nil : ∀ table ∈ tables, table.2 ≠ []
  rows_sublist : ∀ table ∈ tables, table.2.Sublist reports
  ofStatus_eq : ∀ table ∈ tables, ∀ report ∈ table.2, Group.ofStatus report.status = table.1
  perm : (tables.flatMap Prod.snd).Perm shown
  length_failed : (rowsBelow .failed tables).length = (counts reports).failed
  length_license : (rowsBelow .license tables).length = (counts reports).relevant

/-! ## Tables with rows -/

def rowsOf (reports : List Report) (group : Group) : List Report :=
  reports.filter fun report => Group.ofStatus report.status = group

/-- The tables with rows among those under the given titles. -/
def tablesOf (reports : List Report) (groups : List Group) : List TitledRows :=
  (groups.map fun group => (group, rowsOf reports group)).filter fun table => table.2 ≠ []

section Tables

variable {groups : List Group}

/-- A test that the statuses of one title pass, and no others, selects the rows below it. -/
theorem filter_eq_rowsOf (test : Status → Bool) {group : Group}
    (htest : ∀ status, test status = decide (Group.ofStatus status = group))
    (reports : List Report) :
    (reports.filter fun report => test report.status) = rowsOf reports group :=
  List.filter_congr fun report _ => htest report.status

theorem failedReports_eq (reports : List Report) :
    failedReports reports = rowsOf reports .failed :=
  filter_eq_rowsOf Status.isFailed (fun status => by cases status <;> rfl) reports

theorem relevantReports_eq (reports : List Report) :
    relevantReports reports = rowsOf reports .license :=
  filter_eq_rowsOf (· == .relevant) (fun status => by cases status <;> rfl) reports

theorem otherReports_eq (reports : List Report) :
    otherReports reports = rowsOf reports .other :=
  filter_eq_rowsOf (fun status => !(status == .relevant || status.isFailed))
    (fun status => by cases status <;> rfl) reports

theorem group_eq (color : Bool) (group : Group) (rows : List Report) :
    Report.group (group.title color) group.description rows =
      if rows = [] then [] else tableText color (group, rows) := by
  cases rows <;> rfl

theorem flatMap_tablesOf {α : Type} (f : TitledRows → List α) (reports : List Report)
    (groups : List Group) :
    (tablesOf reports groups).flatMap f =
      groups.flatMap fun group =>
        if rowsOf reports group = [] then [] else f (group, rowsOf reports group) := by
  induction groups with
  | nil => rfl
  | cons group groups ih =>
      rw [List.flatMap_cons, ← ih, tablesOf, List.map_cons, List.filter_cons]
      by_cases hrows : rowsOf reports group = []
      · rw [if_neg (by simpa using hrows), if_pos hrows]
        rfl
      · rw [if_pos (by simpa using hrows), if_neg hrows]
        rfl

theorem flatMap_snd_tablesOf (reports : List Report) (groups : List Group) :
    (tablesOf reports groups).flatMap Prod.snd = groups.flatMap (rowsOf reports) := by
  rw [flatMap_tablesOf]
  refine congrArg (groups.flatMap ·) (funext fun group => ?_)
  split
  · next hrows => exact hrows.symm
  · rfl

/-- The rows below different titles are the reports that belong under one of them. -/
theorem flatMap_rowsOf_perm (reports : List Report) (hgroups : groups.Nodup) :
    (groups.flatMap (rowsOf reports)).Perm
      (reports.filter fun report => Group.ofStatus report.status ∈ groups) := by
  induction groups with
  | nil => simp
  | cons group groups ih =>
      obtain ⟨hnot, hgroups⟩ := List.nodup_cons.mp hgroups
      have hfirst : ((reports.filter fun report =>
          Group.ofStatus report.status ∈ group :: groups).filter fun report =>
            Group.ofStatus report.status = group) = rowsOf reports group := by
        rw [List.filter_filter]
        refine List.filter_congr fun report _ => ?_
        by_cases hgroup : Group.ofStatus report.status = group <;> simp [hgroup]
      have hrest : ((reports.filter fun report =>
          Group.ofStatus report.status ∈ group :: groups).filter fun report =>
            !decide (Group.ofStatus report.status = group)) =
          reports.filter fun report => Group.ofStatus report.status ∈ groups := by
        rw [List.filter_filter]
        refine List.filter_congr fun report _ => ?_
        by_cases hgroup : Group.ofStatus report.status = group <;> simp [hgroup, hnot]
      have hsplit := List.filter_append_perm
        (fun report => decide (Group.ofStatus report.status = group))
        (reports.filter fun report => Group.ofStatus report.status ∈ group :: groups)
      rw [hfirst, hrest] at hsplit
      exact ((ih hgroups).append_left _).trans hsplit

theorem filter_tablesOf (reports : List Report) (groups : List Group) (group : Group) :
    ((tablesOf reports groups).filter fun table => table.1 = group) =
      tablesOf reports (groups.filter fun shown => shown = group) := by
  rw [tablesOf, List.filter_comm, List.filter_map]
  rfl

theorem rowsBelow_tablesOf (reports : List Report) {group : Group} (hgroups : groups.Nodup)
    (hgroup : group ∈ groups) :
    rowsBelow group (tablesOf reports groups) = rowsOf reports group := by
  rw [rowsBelow, filter_tablesOf, flatMap_snd_tablesOf, List.filter_eq,
    List.count_eq_one_of_mem hgroups hgroup]
  exact List.append_nil _

theorem accounts_tablesOf (reports : List Report)
    (hgroups : groups.Sublist [.failed, .license, .other]) (hfailed : Group.failed ∈ groups)
    (hlicense : Group.license ∈ groups) :
    Accounts reports (reports.filter fun report => Group.ofStatus report.status ∈ groups)
      (tablesOf reports groups) := by
  have hnodup : groups.Nodup := hgroups.nodup (by decide)
  have hrows : ∀ table ∈ tablesOf reports groups, table.2 = rowsOf reports table.1 := by
    intro table htable
    obtain ⟨group, -, rfl⟩ := List.mem_map.mp (List.mem_of_mem_filter htable)
    rfl
  constructor
  case titles =>
    have hsub := (List.filter_sublist (p := fun table : TitledRows => decide (table.2 ≠ []))
      (l := groups.map fun group => (group, rowsOf reports group))).map Prod.fst
    rw [List.map_map] at hsub
    exact (hsub.trans (by simp [Function.comp_def])).trans hgroups
  case rows_ne_nil =>
    intro table htable
    simpa using List.of_mem_filter htable
  case rows_sublist =>
    intro table htable
    rw [hrows table htable]
    exact List.filter_sublist
  case ofStatus_eq =>
    intro table htable report hreport
    rw [hrows table htable] at hreport
    simpa using List.of_mem_filter hreport
  case perm =>
    rw [flatMap_snd_tablesOf]
    exact flatMap_rowsOf_perm reports hnodup
  case length_failed =>
    rw [rowsBelow_tablesOf reports hnodup hfailed, ← failedReports_eq]
    exact List.countP_eq_length_filter.symm
  case length_license =>
    rw [rowsBelow_tablesOf reports hnodup hlicense, ← relevantReports_eq]
    exact List.countP_eq_length_filter.symm

end Tables

/-! ## The whole report -/

/-- The titles that a report has when there are files for them. -/
def titles (verbose : Bool) : List Group :=
  if verbose then [.failed, .license, .other] else [.failed, .license]

theorem terminalText_eq (verbose color : Bool) (reports : List Report) :
    terminalText verbose false color reports =
      banner color ++ summaryBox color reports ++
        (tablesOf reports (titles verbose)).flatMap (tableText color) := by
  have htables : (tablesOf reports (titles verbose)).flatMap (tableText color) =
      (titles verbose).flatMap fun group =>
        Report.group (group.title color) group.description (rowsOf reports group) := by
    rw [flatMap_tablesOf]
    exact congrArg ((titles verbose).flatMap ·) (funext fun group => (group_eq color _ _).symm)
  rw [htables, terminalText, if_neg Bool.false_ne_true, failedReports_eq, relevantReports_eq,
    otherReports_eq]
  cases verbose with
  | false =>
      rw [if_neg Bool.false_ne_true, titles, if_neg Bool.false_ne_true, List.flatMap_cons,
        List.flatMap_cons, List.flatMap_nil, List.append_nil, List.append_nil, List.append_assoc]
      rfl
  | true =>
      rw [if_pos rfl, titles, if_pos rfl, List.flatMap_cons, List.flatMap_cons,
        List.flatMap_cons, List.flatMap_nil, List.append_nil, List.append_assoc,
        List.append_assoc]
      rfl

theorem take_labelledNumbers_terminalText (verbose quiet color : Bool) (reports : List Report) :
    (labelledNumbers (terminalText verbose quiet color reports)).take 6 =
      (counts reports).labelled := by
  have htake (more : List (Text × Nat)) :
      ((counts reports).labelled ++ more).take 6 = (counts reports).labelled :=
    List.take_left' rfl
  cases quiet with
  | true =>
      obtain ⟨more, hmore⟩ := (shows_quietText color reports).labelledNumbers_append []
      rw [List.append_nil] at hmore
      rw [terminalText, if_pos rfl, hmore, htake]
  | false =>
      have hshows := (shows_banner color).append (shows_summaryBox color reports)
      obtain ⟨more, hmore⟩ := hshows.labelledNumbers_append
        ((tablesOf reports (titles verbose)).flatMap (tableText color))
      rw [terminalText_eq, hmore, List.nil_append, htake]

/-- Every status is in one of the five classes. -/
theorem sum_counts (reports : List Report) :
    (counts reports).relevant + (counts reports).clean + (counts reports).unsupported +
      (counts reports).skipped + (counts reports).failed = (counts reports).total := by
  induction reports with
  | nil => rfl
  | cons report reports ih =>
      simp only [counts, countStatus, List.countP_cons, List.length_cons] at ih ⊢
      rw [← ih]
      cases report.status <;> simp [Status.isSkipped, Status.isFailed] <;> omega

theorem exists_accounts_verbose (color : Bool) (reports : List Report) :
    ∃ tables, terminalText true false color reports =
        banner color ++ summaryBox color reports ++ tables.flatMap (tableText color) ∧
      Accounts reports reports tables := by
  have haccounts := accounts_tablesOf reports (List.Sublist.refl (titles true)) (by decide)
    (by decide)
  have hall : (reports.filter fun report => Group.ofStatus report.status ∈ titles true) =
      reports := by
    refine List.filter_eq_self.mpr fun report _ => ?_
    cases report.status <;> rfl
  rw [hall] at haccounts
  exact ⟨_, terminalText_eq true color reports, haccounts⟩

theorem exists_accounts_brief (color : Bool) (reports : List Report) :
    ∃ tables, terminalText false false color reports =
        banner color ++ summaryBox color reports ++ tables.flatMap (tableText color) ∧
      Accounts reports
        (reports.filter fun report => report.status.isFailed || report.status == .relevant)
        tables := by
  have hsub : (titles false).Sublist [.failed, .license, .other] := by decide
  have haccounts := accounts_tablesOf reports hsub (by decide) (by decide)
  have hshown : (reports.filter fun report => Group.ofStatus report.status ∈ titles false) =
      reports.filter fun report => report.status.isFailed || report.status == .relevant := by
    refine List.filter_congr fun report _ => ?_
    cases report.status <;> rfl
  rw [hshown] at haccounts
  exact ⟨_, terminalText_eq false color reports, haccounts⟩

/-- The first six numbers of any terminal report are the counts behind their labels, and the
last five of them add up to the first, which is the number of files. Behind the box a report
that is not quiet has tables: those of a verbose report show every file in one row, and those
of any other report every file that was refused or has relevant text. -/
theorem terminalText_accounts_for_every_file (color : Bool) (reports : List Report) :
    (∀ verbose quiet, (labelledNumbers (terminalText verbose quiet color reports)).take 6 =
      (counts reports).labelled) ∧
      (counts reports).relevant + (counts reports).clean + (counts reports).unsupported +
        (counts reports).skipped + (counts reports).failed = (counts reports).total ∧
      (counts reports).total = reports.length ∧
      (∃ tables, terminalText true false color reports =
          banner color ++ summaryBox color reports ++ tables.flatMap (tableText color) ∧
        Accounts reports reports tables) ∧
      ∃ tables, terminalText false false color reports =
          banner color ++ summaryBox color reports ++ tables.flatMap (tableText color) ∧
        Accounts reports
          (reports.filter fun report => report.status.isFailed || report.status == .relevant)
          tables :=
  ⟨fun verbose quiet => take_labelledNumbers_terminalText verbose quiet color reports,
    sum_counts reports, rfl, exists_accounts_verbose color reports,
    exists_accounts_brief color reports⟩

end Report

end LicenseText
