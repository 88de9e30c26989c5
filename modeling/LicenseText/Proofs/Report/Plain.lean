import LicenseText.Proofs.Survey.TaggedComment
import LicenseText.Report.Plain

/-!
# What the text report shows

The text report is put together from what each file contributes: a section, a heading
without anything below it, or nothing. It consists of the sections alone exactly when no
file with a syntax is left without literals, or only relevant text is asked for.
-/

namespace LicenseText

namespace Report

/-! ## What a file contributes -/

/-- The file was read, whether or not there is relevant text in it. -/
def IsRead (report : Report) : Prop := report.status = .relevant ∨ report.status = .clean

/-- The file was read and there is something to show for it. -/
def IsShown (relevantOnly : Bool) (report : Report) : Prop :=
  report.IsRead ∧ (report.relevant ≠ [] ∨ relevantOnly = false ∧ report.other ≠ [])

/-- The file was read and there is nothing to show for it. -/
def IsBare (report : Report) : Prop :=
  report.IsRead ∧ report.relevant = [] ∧ report.other = []

instance (report : Report) : Decidable report.IsRead :=
  inferInstanceAs (Decidable (_ ∨ _))

instance (relevantOnly : Bool) : DecidablePred (IsShown relevantOnly) :=
  fun report => inferInstanceAs (Decidable (report.IsRead ∧ (_ ∨ _ ∧ _)))

/-- What a file contributes to the text report. -/
inductive Contributes (relevantOnly : Bool) (report : Report) : Text → Prop
  | shown (hshown : report.IsShown relevantOnly) :
      Contributes relevantOnly report (plainSection relevantOnly report)
  | bare (hmode : relevantOnly = false) (hbare : report.IsBare) :
      Contributes relevantOnly report ("==> ".toList ++ report.path.shown ++ " <==\n\n".toList)
  | silent (hshown : ¬report.IsShown relevantOnly) (hbare : relevantOnly = true ∨ ¬report.IsBare) :
      Contributes relevantOnly report []

/-- The sections of the files for which there is something to show. -/
def shownSections (relevantOnly : Bool) (reports : List Report) : Text :=
  (reports.filter fun report => report.IsShown relevantOnly).flatMap (plainSection relevantOnly)

section Contributions

variable {relevantOnly : Bool} {report : Report} {reports : List Report}

/-- A file has a section if there is something to show for it, or if all text is asked for
and there is none. -/
theorem hasSection_iff :
    hasSection relevantOnly report = true ↔
      report.IsShown relevantOnly ∨ relevantOnly = false ∧ report.IsBare := by
  have hread : (report.status == .relevant || report.status == .clean) = true ↔
      report.IsRead := by
    rw [Bool.or_eq_true, beq_iff_eq, beq_iff_eq, IsRead]
  rw [hasSection, Bool.and_eq_true, hread, IsShown, IsBare]
  cases relevantOnly with
  | true => simp
  | false =>
      by_cases hrelevant : report.relevant = []
      · by_cases hother : report.other = []
        · simp [hrelevant, hother]
        · simp [hrelevant, hother]
      · simp [hrelevant]

theorem IsBare.not_isShown (h : report.IsBare) (relevantOnly : Bool) :
    ¬report.IsShown relevantOnly := by
  rintro ⟨-, hrelevant | ⟨-, hother⟩⟩
  · exact hrelevant h.2.1
  · exact hother h.2.2

theorem plainSection_of_isBare (h : report.IsBare) :
    plainSection false report = "==> ".toList ++ report.path.shown ++ " <==\n\n".toList := by
  unfold plainSection
  simp [titled, h.2.1, h.2.2]

theorem contributes (relevantOnly : Bool) (report : Report) :
    Contributes relevantOnly report
      (if hasSection relevantOnly report then plainSection relevantOnly report else []) := by
  split
  case isTrue hsection =>
    rcases hasSection_iff.mp hsection with hshown | ⟨rfl, hbare⟩
    · exact .shown hshown
    · rw [plainSection_of_isBare hbare]
      exact .bare rfl hbare
  case isFalse hsection =>
    rw [hasSection_iff, not_or, not_and_or, Bool.not_eq_false] at hsection
    exact .silent hsection.1 hsection.2

theorem plainText_cons (relevantOnly : Bool) (report : Report) (reports : List Report) :
    plainText relevantOnly (report :: reports) =
      (if hasSection relevantOnly report then plainSection relevantOnly report else []) ++
        plainText relevantOnly reports := by
  rw [plainText, plainText, List.filter_cons]
  split <;> rfl

theorem shownSections_cons (relevantOnly : Bool) (report : Report) (reports : List Report) :
    shownSections relevantOnly (report :: reports) =
      (if report.IsShown relevantOnly then plainSection relevantOnly report else []) ++
        shownSections relevantOnly reports := by
  rw [shownSections, shownSections, List.filter_cons]
  by_cases hshown : report.IsShown relevantOnly
  · simp [hshown]
  · simp [hshown]

theorem exists_contributions (relevantOnly : Bool) (reports : List Report) :
    ∃ parts, List.Forall₂ (Contributes relevantOnly) reports parts ∧
      plainText relevantOnly reports = parts.flatten := by
  induction reports with
  | nil => exact ⟨[], .nil, rfl⟩
  | cons report rest ih =>
      obtain ⟨parts, hparts, hflatten⟩ := ih
      refine ⟨_ :: parts, .cons (contributes relevantOnly report) hparts, ?_⟩
      rw [plainText_cons, hflatten, List.flatten_cons]

end Contributions

/-! ## Files with nothing to show -/

section Shown

variable {relevantOnly : Bool} {report : Report} {reports : List Report}

theorem length_shownSections_le (relevantOnly : Bool) (reports : List Report) :
    (shownSections relevantOnly reports).length ≤ (plainText relevantOnly reports).length := by
  induction reports with
  | nil => exact Nat.le_refl _
  | cons report rest ih =>
      rw [shownSections_cons, plainText_cons, List.length_append, List.length_append]
      apply Nat.add_le_add _ ih
      by_cases hshown : report.IsShown relevantOnly
      · rw [if_pos hshown, if_pos (hasSection_iff.mpr (.inl hshown))]
      · rw [if_neg hshown]
        exact Nat.zero_le _

/-- Among files none of which is bare, those with a section have something to show. -/
theorem hasSection_iff_of_not_isBare (hbare : relevantOnly = true ∨ ¬report.IsBare) :
    hasSection relevantOnly report = true ↔ report.IsShown relevantOnly := by
  rw [hasSection_iff, or_iff_left]
  rintro ⟨hmode, h⟩
  rcases hbare with hmode' | hbare
  · rw [hmode] at hmode'
    contradiction
  · exact hbare h

/-- A bare file adds to the text, which is then longer than the sections. -/
theorem not_isBare_of_plainText_eq
    (h : plainText false reports = shownSections false reports) :
    ∀ report ∈ reports, ¬report.IsBare := by
  induction reports with
  | nil => exact List.forall_mem_nil _
  | cons report rest ih =>
      rw [plainText_cons, shownSections_cons] at h
      by_cases hbare : report.IsBare
      · rw [if_pos (hasSection_iff.mpr (.inr ⟨rfl, hbare⟩)), if_neg (hbare.not_isShown false),
          plainSection_of_isBare hbare, List.nil_append] at h
        have hlength := length_shownSections_le false rest
        rw [← h] at hlength
        simp only [List.length_append] at hlength
        have hheading : 0 < "==> ".toList.length := by decide
        omega
      · have hsame : hasSection false report = true ↔ report.IsShown false :=
          hasSection_iff_of_not_isBare (.inr hbare)
        simp only [hsame, List.append_cancel_left_eq] at h
        exact List.forall_mem_cons.mpr ⟨hbare, ih h⟩

theorem plainText_eq_shownSections (h : relevantOnly = true ∨ ∀ report ∈ reports, ¬report.IsBare) :
    plainText relevantOnly reports = shownSections relevantOnly reports := by
  rw [plainText, shownSections]
  refine congrArg (List.flatMap _) (List.filter_congr fun report hreport => ?_)
  rw [Bool.eq_iff_iff, decide_eq_true_iff]
  exact hasSection_iff_of_not_isBare (h.imp_right fun hbare => hbare report hreport)

/-- A consistent report is bare when no literals were found. -/
theorem Consistent.isBare_iff (h : report.Consistent) :
    report.IsBare ↔ report.status = .clean ∧ report.literals = [] := by
  have hliterals : report.relevant = [] ∧ report.other = [] ↔ report.literals = [] := by
    rw [← divide_eq_nil_iff, h.divided, Division.mk.injEq]
  rw [IsBare, hliterals, IsRead]
  constructor
  · rintro ⟨hread, hnone⟩
    refine ⟨hread.resolve_left fun hrelevant => ?_, hnone⟩
    exact h.relevant_iff.mp hrelevant (hliterals.mpr hnone).1
  · rintro ⟨hclean, hnone⟩
    exact ⟨.inr hclean, hnone⟩

/-- Each file contributes its section, a heading or nothing, in order. The sections of the
files with something to show are all of the text exactly when only relevant text is asked
for or no file is bare, which for a consistent report means that it was read and no literals
were found. -/
theorem plainText_shows (relevantOnly : Bool) (reports : List Report) :
    (∃ parts, List.Forall₂ (Contributes relevantOnly) reports parts ∧
        plainText relevantOnly reports = parts.flatten) ∧
      (plainText relevantOnly reports = shownSections relevantOnly reports ↔
        relevantOnly = true ∨ ∀ report ∈ reports, ¬report.IsBare) ∧
      ∀ report ∈ reports, report.Consistent →
        (report.IsBare ↔ report.status = .clean ∧ report.literals = []) := by
  refine ⟨exists_contributions relevantOnly reports, ⟨?_, plainText_eq_shownSections⟩, ?_⟩
  · intro h
    cases relevantOnly with
    | true => exact .inl rfl
    | false => exact .inr (not_isBare_of_plainText_eq h)
  · intro report _ hconsistent
    exact hconsistent.isBare_iff

/-- An empty file has a syntax but no literals, and its path is reported all the same. -/
theorem plainText_of_emptyFile :
    let report := Survey.report ⟨{}, some .c⟩ (Survey.treeOf "".toUTF8) Survey.fileName
    report.status = .clean ∧ report.relevant = [] ∧ report.other = [] ∧
      plainText false [report] = "==> a <==\n\n".toList := by
  have hsize : "".toUTF8.size ≤ ({} : ScanLimits).maxFileBytes := by decide +kernel
  have hdecode : decodeUtf8? "".toUTF8 = some [] := by decide +kernel
  have hcontent := Survey.content_treeOf ⟨{}, some .c⟩ hsize hdecode
  have hitems : itemsOrNone [] .c {} = .ok [] :=
    itemsOrNone_of_blank (List.forall_mem_nil _) .c {}
  have hreport := Survey.report_of_items hcontent hitems
  intro report
  rw [show report = _ from hreport]
  decide

end Shown

end Report

end LicenseText
