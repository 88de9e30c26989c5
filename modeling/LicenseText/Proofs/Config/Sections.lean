import LicenseText.Config

/-!
# What a configuration document leaves out

A document need not say anything about a key, and then the key has its default, whatever
the document says about other keys. A section that is an array says something about the
keys whose positions it reaches, since it lists their values in order; a date in a
section's place is read as a table with one key.
-/

namespace LicenseText

namespace Config

open Toml (Value Entries)

inductive Key where
  | includeStrings
  | joinComments
  | openBlock
  | maxFileBytes
  | followLinks
  /-- The extension in the section `mime`. -/
  | mime (extension : Text)
  deriving DecidableEq

namespace Key

def Value : Key → Type
  | includeStrings => Bool
  | joinComments => Bool
  | openBlock => OpenBlockPolicy
  | maxFileBytes => Nat
  | followLinks => Bool
  | mime _ => Option Text

def value (config : Config) : (key : Key) → key.Value
  | includeStrings => config.extract.includeStrings
  | joinComments => config.extract.joinComments
  | openBlock => config.extract.openBlock
  | maxFileBytes => config.scan.maxFileBytes
  | followLinks => config.scan.followLinks
  | mime extension => config.mime.lookup extension

def sectionName : Key → Text
  | includeStrings => "extract".toList
  | joinComments => "extract".toList
  | openBlock => "extract".toList
  | maxFileBytes => "scan".toList
  | followLinks => "scan".toList
  | mime _ => "mime".toList

def name : Key → Text
  | includeStrings => "include_strings".toList
  | joinComments => "collapse_comments".toList
  | openBlock => "unterminated".toList
  | maxFileBytes => "max_file_bytes".toList
  | followLinks => "follow_links".toList
  | mime extension => extension

/-- The position of a key's value when its section is an array. -/
def position : Key → Nat
  | includeStrings => 0
  | joinComments => 1
  | openBlock => 2
  | maxFileBytes => 0
  | followLinks => 1
  | mime _ => 0

end Key

/-- What stands for a section, if anything does, says something about the key with the given
position and name. -/
def Gives (position : Nat) (name : Text) : Option Value → Prop
  | some (.table _ entries) => ∃ value, entries.lookup name = some value
  | some (.array elements) => position < elements.length
  | some (.tables elements) => position < elements.length
  | some .dateTime => name = "$__toml_private_datetime".toList
  | _ => False

/-- The document says something about the key. -/
def Key.IsGiven (entries : Entries) (key : Key) : Prop :=
  Gives key.position key.name (entries.lookup key.sectionName)

variable {section? : Option Value}

/-! ### The sections with fields -/

/-- A section has no value for a field of which it does not say anything. -/
theorem getElem?_fields? {names : List Text} {section_ : Value} {fields : List (Option Value)}
    (h : fields? names section_ = some fields) {position : Nat} {name : Text}
    (hname : names[position]? = some name) (habsent : ¬Gives position name (some section_)) :
    fields[position]? = some none := by
  have hposition : position < names.length := (List.getElem?_eq_some_iff.mp hname).1
  cases section_ with
  | table form entries =>
      obtain rfl := Option.some.inj h
      have hlookup : entries.lookup name = none :=
        Option.eq_none_iff_forall_ne_some.mpr fun value hvalue => habsent ⟨value, hvalue⟩
      rw [List.getElem?_map, hname, Option.map_some, hlookup]
  | array elements =>
      obtain rfl := Option.some.inj h
      have hbeyond : elements[position]? = none :=
        List.getElem?_eq_none (Nat.le_of_not_lt habsent)
      rw [List.getElem?_map, List.getElem?_range hposition, Option.map_some, hbeyond]
  | tables elements =>
      obtain rfl := Option.some.inj h
      have hbeyond : elements[position]? = none :=
        List.getElem?_eq_none (Nat.le_of_not_lt habsent)
      rw [List.getElem?_map, List.getElem?_range hposition, Option.map_some, hbeyond]
      rfl
  | dateTime =>
      obtain rfl := Option.some.inj h
      rw [List.getElem?_map, hname, Option.map_some]
  | boolean _ => contradiction
  | integer _ => contradiction
  | float => contradiction
  | string _ => contradiction

/-- What is read in the place of nothing is the default. -/
theorem eq_of_fieldOr_none {α : Type} {default value : α} {read? : Value → Option α}
    (h : fieldOr default read? none = some value) : value = default :=
  (Option.some.inj h).symm

theorem extract?_eq_some {section_ : Value} {options : ExtractOptions}
    (h : extract? section_ = some options) :
    ∃ strings joining policy,
      fields? ["include_strings".toList, "collapse_comments".toList, "unterminated".toList]
          section_ = some [strings, joining, policy] ∧
        fieldOr true boolean? strings = some options.includeStrings ∧
        fieldOr true boolean? joining = some options.joinComments ∧
        fieldOr .emit openBlock? policy = some options.openBlock := by
  rw [extract?, Option.bind_eq_bind, Option.bind_eq_some_iff] at h
  obtain ⟨fields, hfields, h⟩ := h
  split at h
  · next strings joining policy =>
    simp only [Option.bind_eq_bind, Option.bind_eq_some_iff] at h
    obtain ⟨strings', hstrings, joining', hjoining, policy', hpolicy, hoptions⟩ := h
    obtain rfl := Option.some.inj hoptions
    exact ⟨strings, joining, policy, hfields, hstrings, hjoining, hpolicy⟩
  · contradiction

theorem scan?_eq_some {section_ : Value} {limits : ScanLimits}
    (h : scan? section_ = some limits) :
    ∃ size links,
      fields? ["max_file_bytes".toList, "follow_links".toList] section_ =
          some [size, links] ∧
        fieldOr (1024 * 1024) size? size = some limits.maxFileBytes ∧
        fieldOr false boolean? links = some limits.followLinks := by
  rw [scan?, Option.bind_eq_bind, Option.bind_eq_some_iff] at h
  obtain ⟨fields, hfields, h⟩ := h
  split at h
  · next size links =>
    simp only [Option.bind_eq_bind, Option.bind_eq_some_iff] at h
    obtain ⟨size', hsize, links', hlinks, hlimits⟩ := h
    obtain rfl := Option.some.inj hlimits
    exact ⟨size, links, hfields, hsize, hlinks⟩
  · contradiction

theorem extract_of_not_gives {options : ExtractOptions}
    (h : fieldOr {} extract? section? = some options) :
    (¬Gives 0 "include_strings".toList section? → options.includeStrings = true) ∧
      (¬Gives 1 "collapse_comments".toList section? → options.joinComments = true) ∧
      (¬Gives 2 "unterminated".toList section? → options.openBlock = .emit) := by
  cases section? with
  | none =>
      obtain rfl := eq_of_fieldOr_none h
      exact ⟨fun _ => rfl, fun _ => rfl, fun _ => rfl⟩
  | some section_ =>
      obtain ⟨strings, joining, policy, hfields, hstrings, hjoining, hpolicy⟩ :=
        extract?_eq_some h
      refine ⟨fun habsent => ?_, fun habsent => ?_, fun habsent => ?_⟩
      · obtain rfl : strings = none := by simpa using getElem?_fields? hfields rfl habsent
        exact eq_of_fieldOr_none hstrings
      · obtain rfl : joining = none := by simpa using getElem?_fields? hfields rfl habsent
        exact eq_of_fieldOr_none hjoining
      · obtain rfl : policy = none := by simpa using getElem?_fields? hfields rfl habsent
        exact eq_of_fieldOr_none hpolicy

theorem scan_of_not_gives {limits : ScanLimits} (h : fieldOr {} scan? section? = some limits) :
    (¬Gives 0 "max_file_bytes".toList section? → limits.maxFileBytes = 1024 * 1024) ∧
      (¬Gives 1 "follow_links".toList section? → limits.followLinks = false) := by
  cases section? with
  | none =>
      obtain rfl := eq_of_fieldOr_none h
      exact ⟨fun _ => rfl, fun _ => rfl⟩
  | some section_ =>
      obtain ⟨size, links, hfields, hsize, hlinks⟩ := scan?_eq_some h
      refine ⟨fun habsent => ?_, fun habsent => ?_⟩
      · obtain rfl : size = none := by simpa using getElem?_fields? hfields rfl habsent
        exact eq_of_fieldOr_none hsize
      · obtain rfl : links = none := by simpa using getElem?_fields? hfields rfl habsent
        exact eq_of_fieldOr_none hlinks

/-! ### The section with extensions -/

/-- The MIME name that a table has for an extension is the string under that extension. -/
theorem lookup_of_mime?_table {form : Toml.TableForm} {entries : Entries}
    {pairs : List (Text × Text)} (h : mime? (.table form entries) = some pairs)
    (extension : Text) :
    pairs.lookup extension = (entries.lookup extension).bind string? := by
  rw [mime?] at h
  induction entries generalizing pairs with
  | nil =>
      obtain rfl := Option.some.inj h
      rfl
  | cons entry rest ih =>
      obtain ⟨name, value⟩ := entry
      simp only [List.mapM_cons, Option.bind_eq_bind, Option.bind_eq_some_iff,
        Option.map_eq_some_iff] at h
      obtain ⟨pair, ⟨mime, hmime, rfl⟩, rest', hrest, hpairs⟩ := h
      obtain rfl := Option.some.inj hpairs
      rw [List.lookup_cons, List.lookup_cons]
      split
      · exact hmime.symm
      · exact ih hrest

theorem lookup_of_not_gives {pairs : List (Text × Text)} {extension : Text}
    (h : fieldOr [] mime? section? = some pairs) (habsent : ¬Gives 0 extension section?) :
    pairs.lookup extension = none := by
  cases section? with
  | none =>
      obtain rfl := eq_of_fieldOr_none h
      rfl
  | some section_ =>
      rw [fieldOr] at h
      cases section_ with
      | table form entries =>
          have hlookup : entries.lookup extension = none :=
            Option.eq_none_iff_forall_ne_some.mpr fun value hvalue => habsent ⟨value, hvalue⟩
          rw [lookup_of_mime?_table h, hlookup]
          rfl
      | dateTime =>
          obtain rfl := Option.some.inj h
          have hne : (extension == "$__toml_private_datetime".toList) = false :=
            beq_eq_false_iff_ne.mpr habsent
          rw [List.lookup_cons, hne]
          rfl
      | array _ => contradiction
      | tables _ => contradiction
      | boolean _ => contradiction
      | integer _ => contradiction
      | float => contradiction
      | string _ => contradiction

/-! ### The document -/

theorem ofEntries?_eq_some {entries : Entries} {config : Config}
    (h : ofEntries? entries = some config) :
    fieldOr {} extract? (entries.lookup "extract".toList) = some config.extract ∧
      fieldOr {} scan? (entries.lookup "scan".toList) = some config.scan ∧
      fieldOr [] mime? (entries.lookup "mime".toList) = some config.mime := by
  simp only [ofEntries?, Option.bind_eq_bind, Option.bind_eq_some_iff] at h
  obtain ⟨extract, hextract, scan, hscan, mime, hmime, hconfig⟩ := h
  obtain rfl := Option.some.inj hconfig
  exact ⟨hextract, hscan, hmime⟩

/-- A key has its default in a document that does not say anything about it. -/
theorem value_of_not_isGiven {entries : Entries} {config : Config}
    (h : ofEntries? entries = some config) {key : Key} (habsent : ¬key.IsGiven entries) :
    key.value config = key.value {} := by
  obtain ⟨hextract, hscan, hmime⟩ := ofEntries?_eq_some h
  cases key with
  | includeStrings => exact (extract_of_not_gives hextract).1 habsent
  | joinComments => exact (extract_of_not_gives hextract).2.1 habsent
  | openBlock => exact (extract_of_not_gives hextract).2.2 habsent
  | maxFileBytes => exact (scan_of_not_gives hscan).1 habsent
  | followLinks => exact (scan_of_not_gives hscan).2 habsent
  | mime extension => exact lookup_of_not_gives hmime habsent

end Config

end LicenseText
