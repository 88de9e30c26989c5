import LicenseText.Proofs.BlankDocument
import LicenseText.Proofs.FileTree.Plain
import LicenseText.Proofs.Survey.Consistency

/-!
# The text for a classifier agrees with the report

A report and the text for a classifier are made from the same items, each in its own way.
The status of the report tells which text it is, and the text is refused exactly when the
report has failed. A document of blanks has no text for a classifier even before it is
read; this changes nothing, since nothing is found in it.
-/

namespace LicenseText

/-! ## The text -/

theorem classifierText_of_blank {content : Text} (h : content.IsBlank) (type : FileType)
    (options : ExtractOptions) : classifierText content type options = .ok [] := by
  rw [classifierText, Text.isEmpty_trim, h.all_eq_true]
  rfl

theorem classifierText_of_not_blank {content : Text} (h : ¬content.IsBlank)
    (type : FileType) (options : ExtractOptions) :
    classifierText content type options =
      (itemsOrNone content type options).map fun items =>
        let division := divide (items.map Item.text)
        if division.hasRelevant then division.relevant else content := by
  have hblank : ¬content.trim.isEmpty = true := by
    rw [Text.isEmpty_trim]
    intro hall
    exact h (List.all_eq_true.mp hall)
  rw [classifierText, if_neg hblank, literalsOrNone]
  cases itemsOrNone content type options <;> rfl

/-! ## Reports -/

/-- The text for a classifier, or the reason why there is none, is what the report on a file
with the given content lets expect. -/
structure Report.Foretells (r : Report) (content : Text) (outcome : Except ExtractError Text) :
    Prop where
  of_relevant : r.status = .relevant → outcome = .ok r.relevant
  of_whole : r.status = .clean ∨ r.status = .unsupported → ¬content.IsBlank →
    outcome = .ok content
  of_blank : content.IsBlank →
    outcome = .ok [] ∧ r.status ≠ .relevant ∧ r.status.isFailed = false
  error_iff : ∀ m, (∃ e, outcome = .error e ∧ e.message = m) ↔ r.status = .failed m

/-- Where there is a text, the report has not failed. -/
theorem Report.foretells_ok {r : Report} {content text : Text}
    (hfailed : r.status.isFailed = false)
    (hrelevant : r.status = .relevant → text = r.relevant)
    (hwhole : r.status = .clean ∨ r.status = .unsupported → ¬content.IsBlank → text = content)
    (hblank : content.IsBlank → text = [] ∧ r.status ≠ .relevant) :
    r.Foretells content (.ok text) where
  of_relevant := fun h => congrArg Except.ok (hrelevant h)
  of_whole := fun h hcharacter => congrArg Except.ok (hwhole h hcharacter)
  of_blank := fun h => ⟨congrArg Except.ok (hblank h).1, (hblank h).2, hfailed⟩
  error_iff := by
    intro m
    constructor
    · rintro ⟨e, he, -⟩
      contradiction
    · intro h
      rw [h] at hfailed
      contradiction

/-- Where there is none, the report has failed for the same reason. -/
theorem Report.foretells_error {content : Text} (path : Bytes) (type : FileType)
    {e : ExtractError} (hblank : ¬content.IsBlank) :
    (Report.empty path type (.failed e.message)).Foretells content (.error e) where
  of_relevant := fun h => by contradiction
  of_whole := fun h => by rcases h with h | h <;> contradiction
  of_blank := fun h => absurd h hblank
  error_iff := by
    intro m
    constructor
    · rintro ⟨e', he, rfl⟩
      rw [← Except.error.inj he]
      rfl
    · intro h
      exact ⟨e, rfl, Status.failed.inj h⟩

namespace Survey

theorem foretells_reportOn (survey : Survey) (path : Bytes) (content : Text) :
    (survey.reportOn path content).Foretells content
      (classifierText content (survey.typeOf path content) survey.config.extract) := by
  rw [reportOn]
  generalize survey.typeOf path content = type
  have hnone : ¬(divide []).hasRelevant = true := by decide
  by_cases hblank : content.IsBlank
  · have hstatus : statusOf type (divide []) ≠ .relevant :=
      fun h => hnone (statusOf_eq_relevant_iff.mp h).2
    rw [classifierText_of_blank hblank, itemsOrNone_of_blank hblank]
    exact Report.foretells_ok (isFailed_statusOf _ _) (fun h => absurd h hstatus)
      (fun _ h => absurd hblank h) (fun _ => ⟨rfl, hstatus⟩)
  · rw [classifierText_of_not_blank hblank]
    cases hitems : itemsOrNone content type survey.config.extract with
    | error e => exact Report.foretells_error path type hblank
    | ok items =>
        refine Report.foretells_ok (isFailed_statusOf _ _) ?_ ?_ (fun h => absurd h hblank)
        · intro h
          exact if_pos (statusOf_eq_relevant_iff.mp h).2
        · intro h _
          refine if_neg ?_
          rcases h with h | h
          · exact (statusOf_eq_clean_iff.mp h).2
          · rw [statusOf_eq_unsupported_iff.mp h, itemsOrNone_unknown] at hitems
            rw [← Except.ok.inj hitems]
            exact hnone

/-! ## A tree for any content -/

def fileName : Bytes := Text.bytes ['a']

def treeOf (bytes : ByteArray) : FileTree :=
  ⟨.folder 4096 [(fileName, .file bytes)], [], none⟩

theorem isPlain_treeOf (bytes : ByteArray) : (treeOf bytes).top.IsPlain :=
  .folder_singleton _ (by decide) (.file bytes)

theorem node_treeOf (bytes : ByteArray) : (treeOf bytes).node fileName = .ok (.file bytes) := by
  have hsteps : Path.steps fileName = [fileName] := by decide
  have hflaw : FileTree.flaw? fileName = none := by decide
  have hlookup : [(fileName, Node.file bytes)].lookup fileName = some (.file bytes) := rfl
  have hplace : (treeOf bytes).locate fileName = .ok [fileName] := by
    rw [FileTree.locate, hflaw, hsteps]
    exact (Node.resolve_name (isPlain_treeOf bytes) _ _ (Node.at?_nil _) (by decide)
      (by decide)).trans (by rw [if_neg (by decide), hlookup]; rfl)
  rw [FileTree.node, hplace]
  rfl

/-- Any content that is not too large is the content of a file. -/
theorem content_treeOf (survey : Survey) {bytes : ByteArray} {content : Text}
    (hsize : bytes.size ≤ survey.config.scan.maxFileBytes)
    (hdecode : decodeUtf8? bytes = some content) :
    survey.content (treeOf bytes) fileName = .ok content := by
  have hread : (treeOf bytes).read fileName = .ok bytes := by
    rw [FileTree.read, node_treeOf]
    rfl
  have hfits : ¬survey.config.scan.maxFileBytes < (Node.file bytes).size := Nat.not_lt.mpr hsize
  rw [Survey.content, node_treeOf]
  simp only [Except.mapError, bind, Except.bind, hread]
  rw [if_neg hfits, hdecode]

/-- The text for a classifier is the relevant text of the report on the same content, read
as the same type with the same options, or all of the content when the report tells of
none. It is refused exactly when that report has failed, and for the same reason. -/
theorem report_foretells_classifierText (config : Config) (type : FileType)
    {tree : FileTree} {path : Bytes} {content : Text}
    (h : Survey.content ⟨config, some type⟩ tree path = .ok content) :
    (Survey.report ⟨config, some type⟩ tree path).Foretells content
      (classifierText content type config.extract) := by
  rw [Survey.report, h]
  exact foretells_reportOn ⟨config, some type⟩ path content

theorem report_foretells_classifierText_of_note :
    (Survey.report ⟨{}, some .c⟩ (treeOf "//(c)".toUTF8) fileName).Foretells "//(c)".toList
      (classifierText "//(c)".toList .c {}) := by
  have hsize : "//(c)".toUTF8.size ≤ ({} : ScanLimits).maxFileBytes := by decide +kernel
  have hdecode : decodeUtf8? "//(c)".toUTF8 = some "//(c)".toList := by decide +kernel
  exact report_foretells_classifierText {} .c (content_treeOf ⟨{}, some .c⟩ hsize hdecode)

end Survey

end LicenseText
