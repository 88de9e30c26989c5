import LicenseText.Proofs.License.Header
import LicenseText.Proofs.License.Relevance
import LicenseText.Survey

/-!
# Reports are consistent

A report is made at one of three places: the file is skipped, its document is refused, or
its items are divided. Wherever it is made, its fields agree with its status, its type and
one another (`Report.Consistent`), and a file is skipped for no other reason than those
that `Survey.Unreadable` names.
-/

namespace LicenseText

/-! ## Lenient extraction -/

theorem itemsOrNone_unknown (content : Text) (options : ExtractOptions) :
    itemsOrNone content .unknown options = .ok [] := rfl

theorem eq_xml_of_syntax? {type : FileType} (h : type.syntax? = some (.markup .xml)) :
    type = .xml := by
  cases type <;> first | rfl | contradiction

/-- Only the XML reader refuses a document. -/
theorem eq_xml_of_itemsOrNone {content : Text} {type : FileType} {options : ExtractOptions}
    {e : ExtractError} (h : itemsOrNone content type options = .error e) : type = .xml := by
  rw [itemsOrNone.eq_def, items, foundItems] at h
  cases hkind : type.syntax? with
  | none =>
      rw [hkind] at h
      contradiction
  | some kind =>
      rw [hkind] at h
      cases kind with
      | delimited delimiters => contradiction
      | markup markup =>
          cases markup with
          | html => contradiction
          | xml => exact eq_xml_of_syntax? hkind

/-! ## Statuses -/

namespace Survey

variable {type : FileType} {division : Division}

theorem isSkipped_statusOf (type : FileType) (division : Division) :
    (statusOf type division).isSkipped = false := by
  rw [statusOf]
  repeat' split
  all_goals rfl

theorem isFailed_statusOf (type : FileType) (division : Division) :
    (statusOf type division).isFailed = false := by
  rw [statusOf]
  repeat' split
  all_goals rfl

theorem statusOf_eq_unsupported_iff :
    statusOf type division = .unsupported ↔ type = .unknown := by
  rw [statusOf]
  by_cases htype : type = .unknown
  · simp [htype]
  · by_cases hrelevant : division.hasRelevant = true
    · simp [htype, hrelevant]
    · simp [htype, hrelevant]

theorem statusOf_eq_relevant_iff :
    statusOf type division = .relevant ↔
      type ≠ .unknown ∧ division.hasRelevant = true := by
  rw [statusOf]
  by_cases htype : type = .unknown
  · simp [htype]
  · by_cases hrelevant : division.hasRelevant = true
    · simp [htype, hrelevant]
    · simp [htype, hrelevant]

theorem statusOf_eq_clean_iff :
    statusOf type division = .clean ↔
      type ≠ .unknown ∧ ¬division.hasRelevant = true := by
  rw [statusOf]
  by_cases htype : type = .unknown
  · simp [htype]
  · by_cases hrelevant : division.hasRelevant = true
    · simp [htype, hrelevant]
    · simp [htype, hrelevant]

end Survey

/-! ## Reports -/

/-- The fields of a report agree with its status, its type and one another. -/
structure Report.Consistent (r : Report) : Prop where
  type_of_skipped : r.status.isSkipped = true → r.type = .unknown
  unsupported_iff : r.status.isSkipped = false → (r.status = .unsupported ↔ r.type = .unknown)
  type_of_failed : r.status.isFailed = true → r.type = .xml
  relevant_iff : r.status = .relevant ↔ r.relevant ≠ []
  relevant_of_clean : r.status = .clean → r.relevant = []
  empty : r.status.isSkipped = true ∨ r.status = .unsupported ∨ r.status.isFailed = true →
    r.literals = [] ∧ r.relevant = [] ∧ r.other = [] ∧ r.header = none
  divided : divide r.literals = ⟨r.relevant, r.other⟩
  header_mem : ∀ text ∈ r.header, text ∈ r.literals

namespace Survey

/-- A report on a file in which nothing was found needs no more than a type that fits its
status. -/
theorem consistent_empty (path : Bytes) {type : FileType} {status : Status}
    (hskipped : status.isSkipped = true → type = .unknown)
    (hunsupported : status.isSkipped = false → (status = .unsupported ↔ type = .unknown))
    (hfailed : status.isFailed = true → type = .xml) (hrelevant : status ≠ .relevant) :
    (Report.empty path type status).Consistent where
  type_of_skipped := hskipped
  unsupported_iff := hunsupported
  type_of_failed := hfailed
  relevant_iff := ⟨fun h => absurd h hrelevant, fun h => absurd rfl h⟩
  relevant_of_clean := fun _ => rfl
  empty := fun _ => ⟨rfl, rfl, rfl, rfl⟩
  divided := rfl
  header_mem := fun _ h => by contradiction

/-- A report on literals that were divided. -/
theorem consistent_divided (path : Bytes) {type : FileType} {literals : List Text}
    {header : Option Text} (htype : type ≠ .unknown)
    (hheader : ∀ text ∈ header, text ∈ literals) :
    Report.Consistent ⟨path, type, literals, (divide literals).relevant,
      (divide literals).other, header, statusOf type (divide literals)⟩ where
  type_of_skipped := by
    intro h
    rw [isSkipped_statusOf] at h
    contradiction
  unsupported_iff := fun _ => statusOf_eq_unsupported_iff
  type_of_failed := by
    intro h
    rw [isFailed_statusOf] at h
    contradiction
  relevant_iff := by
    rw [statusOf_eq_relevant_iff, and_iff_right htype, Division.hasRelevant_iff]
  relevant_of_clean := by
    intro h
    by_contra hrelevant
    exact (statusOf_eq_clean_iff.mp h).2 (Division.hasRelevant_iff.mpr hrelevant)
  empty := by
    rw [isSkipped_statusOf, isFailed_statusOf, statusOf_eq_unsupported_iff]
    rintro (h | h | h)
    · contradiction
    · exact absurd h htype
    · contradiction
  divided := rfl
  header_mem := hheader

theorem consistent_reportOn (survey : Survey) (path : Bytes) (content : Text) :
    (survey.reportOn path content).Consistent := by
  rw [reportOn]
  by_cases htype : survey.typeOf path content = .unknown
  · rw [htype, itemsOrNone_unknown]
    exact consistent_empty path (fun _ => rfl) (fun _ => ⟨fun _ => rfl, fun _ => rfl⟩)
      (fun h => by contradiction) (fun h => by contradiction)
  · cases hitems : itemsOrNone content (survey.typeOf path content) survey.config.extract with
    | error e =>
        exact consistent_empty path (fun h => by contradiction)
          (fun _ => ⟨fun h => by contradiction, fun h => absurd h htype⟩)
          (fun _ => eq_xml_of_itemsOrNone hitems) (fun h => by contradiction)
    | ok items =>
        exact consistent_divided path htype fun _ => mem_of_header?

/-! ## Files -/

/-- The file cannot be read, is larger than the configuration allows, or is not UTF-8. -/
def Unreadable (survey : Survey) (tree : FileTree) (path : Bytes) : Prop :=
  match tree.read path with
  | .error _ => True
  | .ok bytes => survey.config.scan.maxFileBytes < bytes.size ∨ decodeUtf8? bytes = none

theorem exists_content_eq_error_iff (survey : Survey) (tree : FileTree) (path : Bytes) :
    (∃ obstacle, survey.content tree path = .error obstacle) ↔
      survey.Unreadable tree path := by
  rw [Survey.content, Unreadable, FileTree.read]
  cases tree.node path with
  | error e => exact ⟨fun _ => trivial, fun _ => ⟨_, rfl⟩⟩
  | ok node =>
      simp only [Except.mapError, bind, Except.bind]
      by_cases hsize : survey.config.scan.maxFileBytes < node.size
      · rw [if_pos hsize]
        refine ⟨fun _ => ?_, fun _ => ⟨_, rfl⟩⟩
        cases node with
        | file bytes => exact .inl hsize
        | folder size entries => trivial
        | link target => trivial
      · rw [if_neg hsize]
        cases node with
        | folder size entries => exact ⟨fun _ => trivial, fun _ => ⟨_, rfl⟩⟩
        | link target => exact ⟨fun _ => trivial, fun _ => ⟨_, rfl⟩⟩
        | file bytes =>
            dsimp only
            cases hdecode : decodeUtf8? bytes with
            | none => exact ⟨fun _ => .inr rfl, fun _ => ⟨_, rfl⟩⟩
            | some text =>
                constructor
                · rintro ⟨obstacle, hobstacle⟩
                  contradiction
                · rintro (hlarge | hnone)
                  · exact absurd hlarge hsize
                  · contradiction

theorem isSkipped_reportOn (survey : Survey) (path : Bytes) (content : Text) :
    (survey.reportOn path content).status.isSkipped = false := by
  rw [reportOn]
  cases itemsOrNone content (survey.typeOf path content) survey.config.extract with
  | error e => rfl
  | ok items => exact isSkipped_statusOf _ _

/-- A document that is refused was read as XML. -/
theorem exists_typeOf_of_failed {survey : Survey} {tree : FileTree} {path : Bytes}
    {reason : Text} (h : (survey.report tree path).status = .failed reason) :
    ∃ content, survey.typeOf path content = .xml := by
  rw [Survey.report] at h
  cases hcontent : survey.content tree path with
  | error obstacle =>
      rw [hcontent] at h
      contradiction
  | ok content =>
      rw [hcontent] at h
      dsimp only at h
      rw [reportOn] at h
      cases hitems : itemsOrNone content (survey.typeOf path content) survey.config.extract with
      | error e => exact ⟨content, eq_xml_of_itemsOrNone hitems⟩
      | ok items =>
          have hstatus := isFailed_statusOf (survey.typeOf path content)
            (divide (items.map Item.text))
          rw [hitems] at h
          dsimp only at h
          rw [h] at hstatus
          contradiction

/-- Every report is consistent, and it tells of a skipped file exactly when the file cannot
be read, is larger than the configuration allows, or is not UTF-8. -/
theorem report_isConsistent (survey : Survey) (tree : FileTree) (path : Bytes) :
    ((survey.report tree path).status.isSkipped = true ↔ survey.Unreadable tree path) ∧
      (survey.report tree path).Consistent := by
  rw [← exists_content_eq_error_iff, Survey.report]
  cases survey.content tree path with
  | error obstacle =>
      refine ⟨⟨fun _ => ⟨obstacle, rfl⟩, fun _ => rfl⟩, ?_⟩
      exact consistent_empty path (fun _ => rfl) (fun h => by contradiction)
        (fun h => by contradiction) (fun h => by contradiction)
  | ok content =>
      refine ⟨⟨fun h => ?_, fun h => ?_⟩, consistent_reportOn survey path content⟩
      · rw [isSkipped_reportOn] at h
        contradiction
      · obtain ⟨obstacle, hobstacle⟩ := h
        contradiction

end Survey

end LicenseText
