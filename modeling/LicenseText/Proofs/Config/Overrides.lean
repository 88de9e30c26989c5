import Mathlib.Data.List.Nodup
import LicenseText.Config
import LicenseText.Proofs.FileType.Detection

/-!
# Types that a configuration gives to extensions

The keys of the section `mime` are extensions, whatever dots stand in front of them and
whatever the case of their letters. When no two keys stand for one extension, the entry for
the extension of a path decides on its type (`Determines`). Otherwise the last of the
entries for an extension decides, so their order matters exactly when they name different
types.
-/

namespace LicenseText

namespace Config

/-! ## Keys -/

/-- The key is the text behind any number of dots, up to the case of its letters. -/
def Respells (key text : Text) : Prop :=
  ∃ dots name, (∀ c ∈ dots, c = '.') ∧ key = dots ++ name ∧ name.lowerAscii = text.lowerAscii

section Keys

variable {key text extension : Text}

theorem normalExtension_dots_append {dots : Text} (hdots : ∀ c ∈ dots, c = '.') (name : Text) :
    normalExtension (dots ++ name) = normalExtension name := by
  rw [normalExtension, normalExtension, List.dropWhile_append_of_pos]
  intro c hc
  simpa using hdots c hc

/-- Dots may be removed before the letters are put into lower case or afterwards. -/
theorem normalExtension_eq_dropWhile (t : Text) :
    normalExtension t = (Text.lowerAscii t).dropWhile (· = '.') := by
  rw [normalExtension, Text.lowerAscii, Text.lowerAscii, List.dropWhile_map]
  congr 2
  funext c
  exact decide_eq_decide.mpr (toLower_eq_iff (by decide) c).symm

theorem normalExtension_of_respells (h : Respells key text) :
    normalExtension key = normalExtension text := by
  obtain ⟨dots, name, hdots, rfl, hname⟩ := h
  rw [normalExtension_dots_append hdots, normalExtension_eq_dropWhile, hname,
    ← normalExtension_eq_dropWhile]

theorem normalExtension_of_not_mem (hdot : '.' ∉ extension) :
    normalExtension extension = extension.lowerAscii := by
  have hdrop : extension.dropWhile (· = '.') = extension := by
    cases extension with
    | nil => rfl
    | cons c rest =>
        have hc : c ≠ '.' := fun h => hdot (h ▸ List.mem_cons_self)
        exact List.dropWhile_cons_of_neg (by simpa using hc)
  rw [normalExtension, hdrop]

/-- A key respells an extension exactly when it is the same in normal form. -/
theorem respells_iff (hdot : '.' ∉ extension) :
    Respells key extension ↔ normalExtension key = extension.lowerAscii := by
  constructor
  · intro h
    rw [normalExtension_of_respells h, normalExtension_of_not_mem hdot]
  · intro h
    refine ⟨key.takeWhile (· = '.'), key.dropWhile (· = '.'), ?_, ?_, h⟩
    · intro c hc
      simpa using List.all_eq_true.mp List.all_takeWhile c hc
    · exact List.takeWhile_append_dropWhile.symm

end Keys

/-! ## Entries for an extension -/

/-- All entries for an extension name one type. -/
def AgreesOn (config : Config) (extension : Text) : Prop :=
  ∀ a ∈ config.mime, ∀ b ∈ config.mime, normalExtension a.1 = extension →
    normalExtension b.1 = extension → FileType.ofMime a.2 = .ofMime b.2

section Entries

variable {config : Config} {extension : Text} {type : FileType} {entry : Text × Text}

theorem overrides_eq (config : Config) :
    config.overrides =
      config.mime.map fun entry => (normalExtension entry.1, .ofMime entry.2) := rfl

theorem exists_entry_of_find? (h : config.overrides.find? extension = some type) :
    ∃ entry ∈ config.mime, normalExtension entry.1 = extension ∧ .ofMime entry.2 = type := by
  have hmem := List.mem_reverse.mp (mem_of_lookup h)
  obtain ⟨entry, hentry, heq⟩ := List.mem_map.mp hmem
  obtain ⟨hkey, htype⟩ := Prod.mk.inj heq
  exact ⟨entry, hentry, hkey, htype⟩

theorem find?_overrides_eq_none_iff :
    config.overrides.find? extension = none ↔
      ∀ entry ∈ config.mime, normalExtension entry.1 ≠ extension := by
  rw [FileType.Overrides.find?, lookup_eq_none_iff_ne, overrides_eq]
  simp only [List.mem_reverse, List.forall_mem_map]

/-- Where the entries for an extension agree, any of them tells the type. -/
theorem AgreesOn.find?_eq (hagree : config.AgreesOn extension) (hentry : entry ∈ config.mime)
    (hkey : normalExtension entry.1 = extension) :
    config.overrides.find? extension = some (.ofMime entry.2) := by
  cases hfind : config.overrides.find? extension with
  | none => exact absurd hkey (find?_overrides_eq_none_iff.mp hfind entry hentry)
  | some type =>
      obtain ⟨found, hfound, hkeyFound, rfl⟩ := exists_entry_of_find? hfind
      rw [hagree found hfound entry hentry hkeyFound hkey]

theorem agreesOn_of_nodup
    (hdistinct : (config.mime.map fun entry => normalExtension entry.1).Nodup)
    (extension : Text) : config.AgreesOn extension := by
  intro a ha b hb hkeyA hkeyB
  have hsame : a = b :=
    List.inj_on_of_nodup_map hdistinct ha hb (hkeyA.trans hkeyB.symm)
  rw [hsame]

end Entries

/-! ## The type of a file -/

/-- How the configuration, the known extensions and the content determine a type. The first
that has the extension of the path determines it, even as unknown. -/
inductive Determines (config : Config) (path : Bytes) (content : Text) : FileType → Prop
  | configured {extension key mime : Text}
      (hextension : FileType.extensionText? path = some extension)
      (hentry : (key, mime) ∈ config.mime) (hkey : Respells key extension) :
      Determines config path content (.ofMime mime)
  | known {extension : Text} {type : FileType}
      (hextension : FileType.extensionText? path = some extension)
      (hfree : ∀ entry ∈ config.mime, ¬Respells entry.1 extension)
      (hknown : (extension.lowerAscii, type) ∈ FileType.extensions) :
      Determines config path content type
  | fromContent (hfree : ∀ extension, FileType.extensionText? path = some extension →
        (∀ entry ∈ config.mime, ¬Respells entry.1 extension) ∧
          ∀ type, (extension.lowerAscii, type) ∉ FileType.extensions) :
      Determines config path content (.ofInterpreterLine content)

section Detect

variable {config : Config} {path : Bytes} {content extension : Text} {type : FileType}

theorem find?_overrides_eq_none_iff_respells
    (hextension : FileType.extensionText? path = some extension) :
    config.overrides.find? extension.lowerAscii = none ↔
      ∀ entry ∈ config.mime, ¬Respells entry.1 extension := by
  have hdot := FileType.dot_not_mem_of_extensionText? hextension
  rw [find?_overrides_eq_none_iff]
  exact forall₂_congr fun entry _ => not_congr (respells_iff hdot).symm

theorem detect_of_determines
    (hdistinct : (config.mime.map fun entry => normalExtension entry.1).Nodup)
    (h : Determines config path content type) :
    FileType.detect config.overrides path content = type := by
  cases h with
  | configured hextension hentry hkey =>
      have hdot := FileType.dot_not_mem_of_extensionText? hextension
      apply FileType.detect_of_find? hextension
      exact (agreesOn_of_nodup hdistinct _).find?_eq hentry ((respells_iff hdot).mp hkey)
  | known hextension hfree hknown =>
      apply FileType.detect_of_mem_extensions hextension ?_ hknown
      exact (find?_overrides_eq_none_iff_respells hextension).mpr hfree
  | fromContent hfree =>
      apply FileType.detect_of_isInconclusive
      intro extension hextension
      obtain ⟨hentries, hunknown⟩ := hfree extension hextension
      exact ⟨(find?_overrides_eq_none_iff_respells hextension).mpr hentries, hunknown⟩

theorem exists_determines (config : Config) (path : Bytes) (content : Text) :
    ∃ type, Determines config path content type := by
  by_cases hconfigured : ∃ extension, FileType.extensionText? path = some extension ∧
      ∃ entry ∈ config.mime, Respells entry.1 extension
  · obtain ⟨extension, hextension, entry, hentry, hkey⟩ := hconfigured
    exact ⟨_, .configured hextension hentry hkey⟩
  have hfree : ∀ extension, FileType.extensionText? path = some extension →
      ∀ entry ∈ config.mime, ¬Respells entry.1 extension := by
    intro extension hextension entry hentry hkey
    exact hconfigured ⟨extension, hextension, entry, hentry, hkey⟩
  by_cases hknown : ∃ extension, FileType.extensionText? path = some extension ∧
      ∃ type, (extension.lowerAscii, type) ∈ FileType.extensions
  · obtain ⟨extension, hextension, type, htype⟩ := hknown
    exact ⟨type, .known hextension (hfree extension hextension) htype⟩
  · refine ⟨_, .fromContent ?_⟩
    intro extension hextension
    refine ⟨hfree extension hextension, ?_⟩
    intro type htype
    exact hknown ⟨extension, hextension, type, htype⟩

theorem overrides_of_respelled {config' : Config}
    (h : List.Forall₂ (fun entry entry' => Respells entry'.1 entry.1 ∧ entry'.2 = entry.2)
      config.mime config'.mime) :
    config'.overrides = config.overrides := by
  rw [overrides_eq, overrides_eq]
  generalize config.mime = entries at h
  generalize config'.mime = entries' at h
  induction h with
  | nil => rfl
  | cons hentry _ ih =>
      obtain ⟨hkey, hmime⟩ := hentry
      rw [List.map_cons, List.map_cons, ih, normalExtension_of_respells hkey, hmime]

/-- If no two keys stand for one extension, the entry for the extension of a path, then the
known extensions and then the content determine the type of a file. The case of the letters
of the path and of the keys, and dots in front of the keys, make no difference. -/
theorem detect_overrides {config : Config}
    (hdistinct : (config.mime.map fun entry => normalExtension entry.1).Nodup)
    (path : Bytes) (content : Text) :
    (∀ type, FileType.detect config.overrides path content = type ↔
        Determines config path content type) ∧
      ∀ (config' : Config) (path' : Bytes),
        List.Forall₂ (fun entry entry' => Respells entry'.1 entry.1 ∧ entry'.2 = entry.2)
            config.mime config'.mime →
          Bytes.lowerAscii path' = Bytes.lowerAscii path →
          FileType.detect config'.overrides path' content =
            FileType.detect config.overrides path content := by
  constructor
  · intro type
    constructor
    · rintro rfl
      obtain ⟨type, htype⟩ := exists_determines config path content
      rwa [detect_of_determines hdistinct htype]
    · intro h
      exact detect_of_determines hdistinct h
  · intro config' path' hentries hpath
    rw [overrides_of_respelled hentries]
    apply FileType.detect_congr
    · rw [← FileType.extensionText?_lowerAscii, hpath, FileType.extensionText?_lowerAscii]
    · intro extension _
      rfl

/-- A key that makes an extension unknown, and another spelling of it. -/
theorem detect_overrides_of_unknown :
    let config : Config := { mime := [(".H".toList, "none".toList)] }
    let respelled : Config := { mime := [("..h".toList, "none".toList)] }
    (config.mime.map fun entry => normalExtension entry.1).Nodup ∧
      Respells "..h".toList ".H".toList ∧
      FileType.detect config.overrides (Text.bytes "a.h".toList) "#!/bin/sh".toList =
        .unknown ∧
      FileType.detect respelled.overrides (Text.bytes "A.H".toList) "#!/bin/sh".toList =
        .unknown := by
  intro config respelled
  have hdistinct : (config.mime.map fun entry => normalExtension entry.1).Nodup := by decide
  have hrespells : Respells "..h".toList ".H".toList :=
    ⟨['.'], ".h".toList, by simp, rfl, by decide⟩
  have hkey : Respells ".H".toList ['h'] := ⟨['.'], ['H'], by simp, rfl, by decide⟩
  have hunknown : FileType.ofMime "none".toList = .unknown := by decide
  have hextension : FileType.extensionText? (Text.bytes "a.h".toList) = some ['h'] := by
    decide +kernel
  have hdetermines :
      Determines config (Text.bytes "a.h".toList) "#!/bin/sh".toList .unknown := by
    rw [← hunknown]
    exact .configured hextension List.mem_cons_self hkey
  obtain ⟨hdetect, hsame⟩ :=
    detect_overrides hdistinct (Text.bytes "a.h".toList) "#!/bin/sh".toList
  have htype := (hdetect .unknown).mpr hdetermines
  refine ⟨hdistinct, hrespells, htype, ?_⟩
  rw [hsame respelled (Text.bytes "A.H".toList) (.cons ⟨hrespells, rfl⟩ .nil) (by decide),
    htype]

end Detect

/-! ## The order of the entries -/

section Order

variable {config : Config} {extension : Text} {entry : Text × Text}

/-- Of the entries for an extension the last one tells the type, and any of them may be the
last. -/
theorem exists_reordered_last (hentry : entry ∈ config.mime) :
    ∃ reordered : Config, reordered.mime.Perm config.mime ∧
      reordered.overrides.find? (normalExtension entry.1) = some (.ofMime entry.2) := by
  refine ⟨{ config with mime := config.mime.erase entry ++ [entry] }, ?_, ?_⟩
  · exact (List.perm_append_singleton entry _).trans (List.perm_cons_erase hentry).symm
  · rw [FileType.Overrides.find?, overrides_eq, List.map_append, List.reverse_append]
    exact List.lookup_cons_self

theorem AgreesOn.find?_reordered (hagree : config.AgreesOn extension) {reordered : Config}
    (hperm : reordered.mime.Perm config.mime) :
    reordered.overrides.find? extension = config.overrides.find? extension := by
  cases hfind : reordered.overrides.find? extension with
  | none =>
      symm
      rw [find?_overrides_eq_none_iff] at hfind ⊢
      intro entry hentry
      exact hfind entry (hperm.mem_iff.mpr hentry)
  | some type =>
      obtain ⟨entry, hentry, hkey, rfl⟩ := exists_entry_of_find? hfind
      exact (hagree.find?_eq (hperm.mem_iff.mp hentry) hkey).symm

theorem find?_reordered_iff :
    (∀ reordered : Config, reordered.mime.Perm config.mime →
        reordered.overrides.find? extension = config.overrides.find? extension) ↔
      config.AgreesOn extension := by
  constructor
  · intro h a ha b hb hkeyA hkeyB
    obtain ⟨lastA, hpermA, hfindA⟩ := exists_reordered_last ha
    obtain ⟨lastB, hpermB, hfindB⟩ := exists_reordered_last hb
    rw [hkeyA, h lastA hpermA] at hfindA
    rw [hkeyB, h lastB hpermB] at hfindB
    exact Option.some.inj (hfindA.symm.trans hfindB)
  · intro hagree reordered hperm
    exact hagree.find?_reordered hperm

theorem lowerAscii_normalExtension (key : Text) :
    (normalExtension key).lowerAscii = normalExtension key := Text.lowerAscii_lowerAscii _

/-- The order of the entries makes no difference to what the overrides say exactly when the
entries for each extension name one type, and none to the type of any file exactly when this
holds for each extension that a path can have. -/
theorem overrides_reordered_iff (config : Config) :
    ((∀ reordered : Config, reordered.mime.Perm config.mime →
          reordered.overrides.find? = config.overrides.find?) ↔
        ∀ extension, config.AgreesOn extension) ∧
      ((∀ reordered : Config, reordered.mime.Perm config.mime → ∀ path content,
            FileType.detect reordered.overrides path content =
              FileType.detect config.overrides path content) ↔
          ∀ extension, '.' ∉ extension → '/' ∉ extension → config.AgreesOn extension) := by
  refine ⟨⟨?_, ?_⟩, ⟨?_, ?_⟩⟩
  · intro h extension
    rw [← find?_reordered_iff]
    intro reordered hperm
    rw [h reordered hperm]
  · intro h reordered hperm
    funext extension
    exact (h extension).find?_reordered hperm
  · intro h extension hdot hslash a ha b hb hkeyA hkeyB
    -- a file with the extension has the type of whichever entry is the last
    have htype : ∀ entry ∈ config.mime, normalExtension entry.1 = extension →
        FileType.detect config.overrides (FileType.pathWith extension) [] =
          .ofMime entry.2 := by
      intro entry hentry hkey
      obtain ⟨last, hperm, hfind⟩ := exists_reordered_last hentry
      rw [← h last hperm]
      apply FileType.detect_of_find? (FileType.extensionText?_pathWith hdot hslash)
      rw [← hkey, lowerAscii_normalExtension]
      exact hfind
    rw [← htype a ha hkeyA, htype b hb hkeyB]
  · intro h reordered hperm path content
    apply FileType.detect_congr rfl
    intro extension hextension
    apply AgreesOn.find?_reordered (h _ ?_ ?_) hperm
    · rw [Text.mem_lowerAscii_iff (by decide)]
      exact FileType.dot_not_mem_of_extensionText? hextension
    · rw [Text.mem_lowerAscii_iff (by decide)]
      exact FileType.slash_not_mem_of_extensionText? hextension

/-- Two keys that differ by a dot stand for one extension, and the order of their entries
decides on the type of a file. -/
theorem find?_reordered_of_dot :
    let config : Config :=
      { mime := [("h".toList, "text/x-c".toList), (".h".toList, "text/x-python".toList)] }
    let reordered : Config :=
      { mime := [(".h".toList, "text/x-python".toList), ("h".toList, "text/x-c".toList)] }
    (config.mime.map Prod.fst).Nodup ∧ reordered.mime.Perm config.mime ∧
      reordered.overrides.find? "h".toList ≠ config.overrides.find? "h".toList ∧
      FileType.detect config.overrides (Text.bytes "a.h".toList) [] = .python ∧
      FileType.detect reordered.overrides (Text.bytes "a.h".toList) [] = .c := by
  refine ⟨by decide, List.Perm.swap _ _ _, by decide, by decide +kernel, by decide +kernel⟩

end Order

end Config

end LicenseText
