import LicenseText.CommandLine
import LicenseText.Proofs.FileTree.Walk
import LicenseText.Proofs.Survey.Consistency

/-!
# The exit code of a scan

A scan breaks off when its configuration cannot be loaded, when the type that is asked for
has no syntax, or when there are no files; nothing is written then. Otherwise it reports
on the files. Its exit code tells whether it broke off or some document was refused. How the
report is shown has a part in that only where the path of a file is no text: such a path
cannot be written in JSON, so nothing is written then, either.
-/

namespace LicenseText

/-- The arguments ask for the same scan; they may differ in how its report is shown. -/
structure Arguments.SameScan (a b : Arguments) : Prop where
  paths : a.paths = b.paths
  config : a.config = b.config
  mime : a.mime = b.mime
  noStrings : a.noStrings = b.noStrings
  noJoining : a.noJoining = b.noJoining

theorem Arguments.SameScan.symm {a b : Arguments} (h : a.SameScan b) : b.SameScan a :=
  ⟨h.paths.symm, h.config.symm, h.mime.symm, h.noStrings.symm, h.noJoining.symm⟩

namespace CommandLine

variable {tree : FileTree} {a b : Arguments}

/-- What loading the configuration for the arguments gives. -/
def loadFor (tree : FileTree) (a : Arguments) : Except ConfigError Config :=
  Config.load tree (configRoot tree a.paths) a.config

/-- Why a scan has nothing to report. -/
inductive BreaksOff (tree : FileTree) (a : Arguments) : Prop where
  /-- The configuration cannot be loaded. -/
  | unloadable (error : ConfigError) (hload : loadFor tree a = .error error)
  /-- The type that is asked for has no syntax. -/
  | unsupported (name : Text) (hname : a.mime = some name)
      (hunknown : FileType.ofMime name = .unknown)
  /-- There are no files at or below the paths. -/
  | nothing (config : Config) (hload : loadFor tree a = .ok config)
      (hfiles : tree.files config.scan.followLinks a.paths = [])

def surveyWith (a : Arguments) (config : Config) : Survey :=
  ⟨override a config, a.mime.map FileType.ofMime⟩

/-- Among the files at and below the paths there is a document that is refused. -/
def Refuses (tree : FileTree) (a : Arguments) : Prop :=
  ∃ config, loadFor tree a = .ok config ∧
    ∃ path ∈ tree.files config.scan.followLinks a.paths, ∃ reason,
      ((surveyWith a config).report tree path).status = .failed reason

/-- JSON is asked for, and among the files at and below the paths there is one whose path is
no text. -/
def Unwritable (tree : FileTree) (a : Arguments) : Prop :=
  a.report = some .json ∧ ∃ config, loadFor tree a = .ok config ∧
    ∃ path ∈ tree.files config.scan.followLinks a.paths, path.text? = none

/-! ### The reports of a scan -/

theorem forcedType_of_unknown {name : Text} (hname : a.mime = some name)
    (hunknown : FileType.ofMime name = .unknown) : forcedType a = .error () := by
  rw [forcedType, hname, Option.map_some, hunknown]

theorem forcedType_of_known
    (h : ∀ name, a.mime = some name → FileType.ofMime name ≠ .unknown) :
    forcedType a = .ok (a.mime.map FileType.ofMime) := by
  rw [forcedType]
  cases hmime : a.mime with
  | none => rfl
  | some name =>
      have hknown := h name hmime
      rw [Option.map_some]
      split
      · contradiction
      · next hsome => exact absurd (Option.some.inj hsome) hknown
      · next hsome => rw [hsome]

theorem reports?_of_load {config : Config} (hload : loadFor tree a = .ok config)
    (hforced : forcedType a = .ok (a.mime.map FileType.ofMime)) :
    reports? tree a =
      if (tree.files config.scan.followLinks a.paths).isEmpty then none
      else some ((tree.files config.scan.followLinks a.paths).map
        ((surveyWith a config).report tree)) := by
  rw [loadFor] at hload
  rw [reports?, hload, hforced]
  rfl

theorem reports?_of_unknown {name : Text} (hname : a.mime = some name)
    (hunknown : FileType.ofMime name = .unknown) : reports? tree a = none := by
  rw [reports?, forcedType_of_unknown hname hunknown]
  cases Config.load tree (configRoot tree a.paths) a.config <;> rfl

/-- A scan that breaks off has no reports. -/
theorem BreaksOff.reports?_eq_none (h : BreaksOff tree a) : reports? tree a = none := by
  cases h with
  | unloadable error hload =>
      rw [loadFor] at hload
      rw [reports?, hload]
      rfl
  | unsupported name hname hunknown => exact reports?_of_unknown hname hunknown
  | nothing config hload hfiles =>
      by_cases h : ∃ name, a.mime = some name ∧ FileType.ofMime name = .unknown
      · obtain ⟨name, hname, hunknown⟩ := h
        exact reports?_of_unknown hname hunknown
      · have hforced := forcedType_of_known fun name hname hunknown =>
          h ⟨name, hname, hunknown⟩
        rw [reports?_of_load hload hforced, hfiles]
        rfl

/-- A scan that does not break off has a report on each file. -/
theorem reports?_of_not_breaksOff (h : ¬BreaksOff tree a) :
    ∃ config, loadFor tree a = .ok config ∧
      reports? tree a = some ((tree.files config.scan.followLinks a.paths).map
        ((surveyWith a config).report tree)) := by
  cases hload : loadFor tree a with
  | error error => exact absurd (.unloadable error hload) h
  | ok config =>
      have hforced := forcedType_of_known fun name hname hunknown =>
        h (.unsupported name hname hunknown)
      have hfiles : tree.files config.scan.followLinks a.paths ≠ [] := fun hfiles =>
        h (.nothing config hload hfiles)
      refine ⟨config, rfl, ?_⟩
      rw [reports?_of_load hload hforced, if_neg (by simpa using hfiles)]

/-! ### Scans that differ in how their reports are shown -/

section SameScan

variable (tree) (h : a.SameScan b)
include h

theorem loadFor_eq_of_sameScan : loadFor tree a = loadFor tree b := by
  rw [loadFor, loadFor, h.paths, h.config]

theorem BreaksOff.of_sameScan (hbreaks : BreaksOff tree a) : BreaksOff tree b := by
  have hloads := loadFor_eq_of_sameScan tree h
  cases hbreaks with
  | unloadable error hload => exact .unloadable error (hloads ▸ hload)
  | unsupported name hname hunknown => exact .unsupported name (h.mime ▸ hname) hunknown
  | nothing config hload hfiles => exact .nothing config (hloads ▸ hload) (h.paths ▸ hfiles)

theorem Refuses.of_sameScan (hrefuses : Refuses tree a) : Refuses tree b := by
  obtain ⟨config, hload, path, hpath, reason, hfailed⟩ := hrefuses
  have hsurvey : surveyWith a config = surveyWith b config := by
    rw [surveyWith, surveyWith, override, override, h.mime, h.noStrings, h.noJoining]
  rw [loadFor_eq_of_sameScan tree h] at hload
  exact ⟨config, hload, path, h.paths ▸ hpath, reason, hsurvey ▸ hfailed⟩

end SameScan

/-! ### Paths that cannot be written -/

theorem jsonText?_eq_none_iff (reports : List Report) :
    Report.jsonText? reports = none ↔ ∃ report ∈ reports, report.path.text? = none := by
  rw [Report.jsonText?, Option.map_eq_none_iff]
  induction reports with
  | nil => simp
  | cons report rest ih =>
      rw [List.exists_mem_cons_iff, ← ih, List.mapM_cons]
      cases hpath : report.path.text? with
      | none => simp [Report.toJson?, hpath]
      | some text =>
          cases hrest : rest.mapM Report.toJson? with
          | none => simp [Report.toJson?, hpath]
          | some values => simp [Report.toJson?, hpath]

theorem render?_eq_none_iff (color : Bool) (a : Arguments) (reports : List Report) :
    render? color a reports = none ↔
      a.report = some .json ∧ ∃ report ∈ reports, report.path.text? = none := by
  rw [render?]
  cases hformat : a.report with
  | none => simp
  | some format =>
      cases format with
      | terminal => simp
      | text => simp
      | json => simp [jsonText?_eq_none_iff]

theorem path_report (survey : Survey) (tree : FileTree) (path : Bytes) :
    (survey.report tree path).path = path := by
  rw [Survey.report]
  cases survey.content tree path with
  | error obstacle => rfl
  | ok content =>
      dsimp only
      rw [Survey.reportOn]
      cases itemsOrNone content (survey.typeOf path content) survey.config.extract <;> rfl

/-- The reports on the files cannot be written if the path of a file is no text. -/
theorem render?_map_report_eq_none_iff {config : Config} (hload : loadFor tree a = .ok config)
    (color : Bool) :
    render? color a ((tree.files config.scan.followLinks a.paths).map
      ((surveyWith a config).report tree)) = none ↔ Unwritable tree a := by
  rw [render?_eq_none_iff, Unwritable]
  simp only [List.mem_map, exists_exists_and_eq_and, path_report]
  refine and_congr_right fun _ => ⟨fun h => ⟨config, hload, h⟩, ?_⟩
  rintro ⟨config', hload', h⟩
  obtain rfl : config = config' := Except.ok.inj (hload.symm.trans hload')
  exact h

/-! ### The exit code -/

theorem isFailed_iff (status : Status) :
    status.isFailed = true ↔ ∃ reason, status = .failed reason := by
  cases status <;> simp [Status.isFailed]

/-- The reports on the files tell of a refusal if a document is refused. -/
theorem any_isFailed_iff {config : Config} (hload : loadFor tree a = .ok config) :
    (((tree.files config.scan.followLinks a.paths).map ((surveyWith a config).report tree)).any
      fun report => report.status.isFailed) = true ↔ Refuses tree a := by
  rw [List.any_map, List.any_eq_true, Refuses]
  constructor
  · rintro ⟨path, hpath, hfailed⟩
    exact ⟨config, hload, path, hpath, (isFailed_iff _).mp hfailed⟩
  · rintro ⟨config', hload', path, hpath, hfailed⟩
    obtain rfl : config = config' := Except.ok.inj (hload.symm.trans hload')
    exact ⟨path, hpath, (isFailed_iff _).mpr hfailed⟩

theorem scan_of_breaksOff (color : Bool) (h : BreaksOff tree a) :
    scan tree color a = failure := by
  rw [scan, h.reports?_eq_none]

/-- A scan that cannot write its report fails. -/
theorem scan_of_unwritable (color : Bool) (h : Unwritable tree a) :
    scan tree color a = failure := by
  by_cases hbreaks : BreaksOff tree a
  · exact scan_of_breaksOff color hbreaks
  · obtain ⟨config, hload, hreports⟩ := reports?_of_not_breaksOff hbreaks
    have hrender := (render?_map_report_eq_none_iff hload color).mpr h
    rw [scan, hreports]
    dsimp only
    rw [hrender]

/-- A scan ends with code one if it breaks off, a document is refused or its report cannot be
written, and with code zero if not. -/
theorem exitCode_scan (tree : FileTree) (color : Bool) (a : Arguments) :
    (BreaksOff tree a ∨ Refuses tree a ∨ Unwritable tree a) ∧
        (scan tree color a).exitCode = 1 ∨
      ¬(BreaksOff tree a ∨ Refuses tree a ∨ Unwritable tree a) ∧
        (scan tree color a).exitCode = 0 := by
  by_cases hbreaks : BreaksOff tree a
  · rw [scan_of_breaksOff color hbreaks]
    exact .inl ⟨.inl hbreaks, rfl⟩
  by_cases hunwritable : Unwritable tree a
  · rw [scan_of_unwritable color hunwritable]
    exact .inl ⟨.inr (.inr hunwritable), rfl⟩
  obtain ⟨config, hload, hreports⟩ := reports?_of_not_breaksOff hbreaks
  have hfailed := any_isFailed_iff hload
  have hrender := (render?_map_report_eq_none_iff hload color).not.mpr hunwritable
  obtain ⟨output, houtput⟩ := Option.ne_none_iff_exists'.mp hrender
  rw [scan, hreports]
  dsimp only
  rw [houtput]
  dsimp only
  by_cases hrefuses : Refuses tree a
  · exact .inl ⟨.inr (.inl hrefuses), if_pos (hfailed.mpr hrefuses)⟩
  · exact .inr ⟨by simp [hbreaks, hrefuses, hunwritable], if_neg (hfailed.not.mpr hrefuses)⟩

theorem exitCode_eq_iff {m n : Nat} {P Q : Prop} (hm : (m = 1 ↔ P) ∧ (m = 0 ↔ ¬P))
    (hn : (n = 1 ↔ Q) ∧ (n = 0 ↔ ¬Q)) : m = n ↔ (P ↔ Q) := by
  by_cases hP : P
  · rw [hm.1.mpr hP, eq_comm, hn.1, iff_true_left hP]
  · rw [hm.2.mpr hP, eq_comm, hn.2, iff_false_left hP]

/-- The exit code of a scan is one if the scan breaks off, some document is refused or the
report cannot be written, and zero if not. Nothing is written by a scan that breaks off or
cannot write its report. Invocations for the same scan, which may have the report shown in
different ways, have the same exit code unless it cannot be written in one of these ways
alone. -/
theorem exitCode_run {args : List Bytes} (h : Request.ofArguments args = .scan a)
    (tree : FileTree) (color : Bool) :
    ((run tree color args).exitCode = 1 ↔
        BreaksOff tree a ∨ Refuses tree a ∨ Unwritable tree a) ∧
      ((run tree color args).exitCode = 0 ↔
        ¬(BreaksOff tree a ∨ Refuses tree a ∨ Unwritable tree a)) ∧
      (BreaksOff tree a ∨ Unwritable tree a → (run tree color args).output = []) ∧
      ∀ (color' : Bool) (args' : List Bytes) (b : Arguments),
        Request.ofArguments args' = .scan b → a.SameScan b →
          ((run tree color args).exitCode = (run tree color' args').exitCode ↔
            BreaksOff tree a ∨ Refuses tree a ∨ (Unwritable tree a ↔ Unwritable tree b)) := by
  have hcodes : ∀ {args : List Bytes} {a : Arguments} (color : Bool),
      Request.ofArguments args = .scan a →
        ((run tree color args).exitCode = 1 ↔
            BreaksOff tree a ∨ Refuses tree a ∨ Unwritable tree a) ∧
          ((run tree color args).exitCode = 0 ↔
            ¬(BreaksOff tree a ∨ Refuses tree a ∨ Unwritable tree a)) := by
    intro args a color h
    have hrun : run tree color args = scan tree color a := by rw [run, h]
    rw [hrun]
    rcases exitCode_scan tree color a with ⟨hfails, hcode⟩ | ⟨hgoes, hcode⟩
    · simp [hfails, hcode]
    · simp [hgoes, hcode]
  refine ⟨(hcodes color h).1, (hcodes color h).2, ?_, ?_⟩
  · intro hfails
    have hrun : run tree color args = failure := by
      rw [run, h]
      exact hfails.elim (scan_of_breaksOff color) (scan_of_unwritable color)
    rw [hrun]
    rfl
  · intro color' args' b h' hsame
    have hbreaks : BreaksOff tree b ↔ BreaksOff tree a :=
      ⟨.of_sameScan tree hsame.symm, .of_sameScan tree hsame⟩
    have hrefuses : Refuses tree b ↔ Refuses tree a :=
      ⟨.of_sameScan tree hsame.symm, .of_sameScan tree hsame⟩
    rw [exitCode_eq_iff (hcodes color h) (hcodes color' h'), hbreaks, hrefuses]
    by_cases hfails : BreaksOff tree a ∨ Refuses tree a
    · rcases hfails with hfails | hfails <;> simp [hfails]
    · obtain ⟨hgoes, haccepts⟩ := not_or.mp hfails
      simp [hgoes, haccepts]

def emptyTree : FileTree := ⟨.newFolder, [], none⟩

/-- A type without syntax is refused, also when no more than the counts are asked for. -/
theorem exitCode_run_of_unknown_mime :
    Request.ofArguments [Text.bytes "--mime=x".toList, Text.bytes ['a']] =
        .scan { paths := [Text.bytes ['a']], mime := some ['x'] } ∧
      (run emptyTree false [Text.bytes "--mime=x".toList, Text.bytes ['a']]).exitCode = 1 ∧
      (run emptyTree false [Text.bytes "--mime=x".toList, Text.bytes ['a']]).exitCode =
        (run emptyTree true
          [Text.bytes "--mime=x".toList, Text.bytes ['a'], Text.bytes "-q".toList]).exitCode := by
  have h : Request.ofArguments [Text.bytes "--mime=x".toList, Text.bytes ['a']] =
      .scan { paths := [Text.bytes ['a']], mime := some ['x'] } := by decide +kernel
  have h' : Request.ofArguments
      [Text.bytes "--mime=x".toList, Text.bytes ['a'], Text.bytes "-q".toList] =
        .scan { paths := [Text.bytes ['a']], mime := some ['x'], quiet := true } := by
    decide +kernel
  have hunknown : FileType.ofMime ['x'] = .unknown := by decide +kernel
  have hbreaks : BreaksOff emptyTree { paths := [Text.bytes ['a']], mime := some ['x'] } :=
    .unsupported _ rfl hunknown
  obtain ⟨hone, -, -, hsame⟩ := exitCode_run h emptyTree false
  exact ⟨h, hone.mpr (.inl hbreaks),
    (hsame true _ _ h' ⟨rfl, rfl, rfl, rfl, rfl⟩).mpr (.inl hbreaks)⟩

/-! ### A path that is no text -/

open FileTree (broken brokenName isPlain_broken slashed)

/-- Nothing is refused if a type other than XML is forced upon the files. -/
theorem not_refuses_of_mime {name : Text} (hname : a.mime = some name)
    (htype : FileType.ofMime name ≠ .xml) : ¬Refuses tree a := by
  rintro ⟨config, -, path, -, reason, hfailed⟩
  obtain ⟨content, hxml⟩ := Survey.exists_typeOf_of_failed hfailed
  rw [Survey.typeOf, surveyWith, hname] at hxml
  exact htype hxml

theorem node_broken : broken.node (slashed 0) = .ok broken.top :=
  FileTree.node_slashed isPlain_broken (Node.at?_nil _) (by decide)

/-- In the folder with the one file there is no configuration. -/
theorem loadFor_broken (hpaths : a.paths = [slashed 0]) (hconfig : a.config = none) :
    loadFor broken a = .ok {} := by
  have hroot : configRoot broken a.paths = slashed 0 := by
    rw [hpaths, configRoot, FileTree.isFile, node_broken]
    rfl
  obtain ⟨place, hlocate, hplace⟩ := FileTree.locate_of_node node_broken
  have hleads := (FileTree.leadsTo_of_locate isPlain_broken hlocate).1
  have hproject : broken.holds (Config.projectPath (slashed 0)) = false :=
    @FileTree.LeadsTo.holds_along _ _ _ _ _ isPlain_broken
      (Text.bytes ".license-literals".toList) [Text.bytes "config.toml".toList] hleads hplace
      (by decide +kernel) (by decide +kernel)
  have hnone : Config.candidate? broken (slashed 0) none = none := by
    rw [Config.candidate?, Option.orElse]
    simp only [List.singleton_append, List.find?_cons, hproject]
    rfl
  rw [loadFor, hroot, hconfig, Config.load, hnone]

theorem mem_files_broken :
    Path.along (slashed 0) [brokenName] ∈ broken.files false [slashed 0] := by
  rw [FileTree.files, List.flatMap_cons, List.flatMap_nil, List.append_nil,
    FileTree.mem_filesOfRoot_iff isPlain_broken false node_broken (by decide)]
  exact FileTree.offers_broken

theorem not_breaksOff_broken (hpaths : a.paths = [slashed 0]) (hconfig : a.config = none)
    (hmime : a.mime = some "text/x-c".toList) : ¬BreaksOff broken a := by
  have hload := loadFor_broken hpaths hconfig
  intro hbreaks
  cases hbreaks with
  | unloadable error herror =>
      rw [hload] at herror
      contradiction
  | unsupported name hname hunknown =>
      obtain rfl := Option.some.inj (hmime.symm.trans hname)
      have hknown : FileType.ofMime "text/x-c".toList ≠ .unknown := by decide +kernel
      contradiction
  | nothing config hconfig hfiles =>
      obtain rfl := Except.ok.inj (hload.symm.trans hconfig)
      rw [hpaths] at hfiles
      exact List.ne_nil_of_mem mem_files_broken hfiles

/-- The path of the one file is no text, so it cannot be written in JSON, though there is a
file and no document is refused. A scan of the same file that does not write JSON succeeds. -/
theorem exitCode_run_of_broken_name :
    ∃ a b : Arguments,
      Request.ofArguments [Text.bytes "--mime=text/x-c".toList,
          Text.bytes "--report=json".toList, slashed 0] = .scan a ∧
        Request.ofArguments [Text.bytes "--mime=text/x-c".toList, slashed 0] = .scan b ∧
        a.SameScan b ∧ ¬BreaksOff broken a ∧ ¬Refuses broken a ∧
        (run broken false [Text.bytes "--mime=text/x-c".toList,
          Text.bytes "--report=json".toList, slashed 0]).exitCode = 1 ∧
        (run broken false [Text.bytes "--mime=text/x-c".toList, slashed 0]).exitCode = 0 := by
  have ha : Request.ofArguments [Text.bytes "--mime=text/x-c".toList,
      Text.bytes "--report=json".toList, slashed 0] =
        .scan { paths := [slashed 0], mime := some "text/x-c".toList, report := some .json } := by
    decide +kernel
  have hb : Request.ofArguments [Text.bytes "--mime=text/x-c".toList, slashed 0] =
      .scan { paths := [slashed 0], mime := some "text/x-c".toList } := by
    decide +kernel
  have htype : FileType.ofMime "text/x-c".toList ≠ .xml := by decide +kernel
  have hunwritable : Unwritable broken
      { paths := [slashed 0], mime := some "text/x-c".toList, report := some .json } :=
    ⟨rfl, {}, loadFor_broken rfl rfl, _, mem_files_broken, by decide +kernel⟩
  refine ⟨_, _, ha, hb, ⟨rfl, rfl, rfl, rfl, rfl⟩, not_breaksOff_broken rfl rfl rfl,
    not_refuses_of_mime rfl htype, ?_, ?_⟩
  · rw [run, ha]
    exact congrArg Outcome.exitCode (scan_of_unwritable false hunwritable)
  · rw [run, hb]
    rcases exitCode_scan broken false
        { paths := [slashed 0], mime := some "text/x-c".toList } with ⟨hfails, -⟩ | ⟨-, hcode⟩
    · rcases hfails with hfails | hfails | hfails
      · exact absurd hfails (not_breaksOff_broken rfl rfl rfl)
      · exact absurd hfails (not_refuses_of_mime rfl htype)
      · cases hfails.1
    · exact hcode
end CommandLine

end LicenseText
