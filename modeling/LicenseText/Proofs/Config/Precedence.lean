import LicenseText.CommandLine
import LicenseText.Proofs.Config.Sections
import LicenseText.Proofs.Survey.ClassifierText
import LicenseText.Proofs.Text.Utf8

/-!
# Which configuration decides

One place decides what the configuration is: the first one that applies. A flaw in what
stands there is an error that names the place, and what it leaves out has its default, so
that no other place has any part in the configuration. The switches of the command line
only turn options off.
-/

namespace LicenseText

def ConfigError.path : ConfigError → Bytes
  | .unreadable path => path
  | .invalid path => path

theorem ConfigError.path_suffix_message (error : ConfigError) :
    error.path.shown <:+ error.message := by
  cases error with
  | unreadable path => exact List.suffix_append _ _
  | invalid path => exact List.suffix_append _ _

/-! ### Text in files -/

namespace FileTree

variable {tree : FileTree}

/-- The path leads to a file that holds the text in UTF-8. -/
def HoldsText (tree : FileTree) (path : Bytes) (text : Text) : Prop :=
  tree.node path = .ok (.file (String.ofList text).toUTF8)

/-- What can be read as text at a path is what the file there holds. -/
theorem bind_decodeUtf8?_read_eq_some_iff {path : Bytes} {text : Text} :
    (tree.read path).toOption.bind decodeUtf8? = some text ↔ tree.HoldsText path text := by
  rw [read, HoldsText, Option.bind_eq_some_iff]
  cases hnode : tree.node path with
  | error e => simp [bind, Except.bind, Except.toOption]
  | ok found =>
      cases found with
      | file bytes =>
          simp [bind, Except.bind, Except.toOption, decodeUtf8?_eq_some_iff]
      | folder size entries => simp [bind, Except.bind, Except.toOption]
      | link target => simp [bind, Except.bind, Except.toOption]

theorem HoldsText.unique {path : Bytes} {s t : Text} (hs : tree.HoldsText path s)
    (ht : tree.HoldsText path t) : s = t := by
  have hread := bind_decodeUtf8?_read_eq_some_iff.mpr hs
  rw [bind_decodeUtf8?_read_eq_some_iff.mpr ht] at hread
  exact (Option.some.inj hread).symm

end FileTree

namespace Config

open FileTree (bind_decodeUtf8?_read_eq_some_iff)

variable {tree : FileTree} {root : Bytes} {override? source : Option Bytes}

/-- The source is the path of the configuration that decides, or nothing if the
configuration is the default one. It is the first of the path that is given, the project's
and the user's, of which the latter two apply when they lead anywhere. -/
inductive Decides (tree : FileTree) (root : Bytes) :
    Option Bytes → Option Bytes → Prop where
  | given (path : Bytes) : Decides tree root (some path) (some path)
  | project (hproject : tree.holds (projectPath root) = true) :
      Decides tree root none (some (projectPath root))
  | home (hproject : tree.holds (projectPath root) = false) (home : Bytes)
      (hhome : tree.home = some home) (hholds : tree.holds (homePath home) = true) :
      Decides tree root none (some (homePath home))
  | builtIn (hproject : tree.holds (projectPath root) = false)
      (hhome : ∀ home, tree.home = some home → tree.holds (homePath home) = false) :
      Decides tree root none none

/-- What the source yields, where `IsGiven` tells of which keys a document says
anything. -/
inductive Yields (IsGiven : Toml.Entries → Key → Prop) (tree : FileTree) :
    Option Bytes → Except ConfigError Config → Prop where
  | builtIn : Yields IsGiven tree none (.ok {})
  | unreadable (path : Bytes) (htext : ∀ text, ¬tree.HoldsText path text) :
      Yields IsGiven tree (some path) (.error (.unreadable path))
  | invalid (path : Bytes) (text : Text) (htext : tree.HoldsText path text)
      (hinvalid : (Toml.parse? text).bind ofEntries? = none) :
      Yields IsGiven tree (some path) (.error (.invalid path))
  | valid (path : Bytes) (text : Text) (htext : tree.HoldsText path text) (entries : Toml.Entries)
      (hparse : Toml.parse? text = some entries) (config : Config)
      (hvalid : ofEntries? entries = some config)
      (hdefault : ∀ key : Key, ¬IsGiven entries key → key.value config = key.value {}) :
      Yields IsGiven tree (some path) (.ok config)

/-! ### The place that decides -/

theorem candidate?_of_decides (h : Decides tree root override? source) :
    candidate? tree root override? = source := by
  cases h with
  | given path => rfl
  | project hproject => simp [candidate?, hproject]
  | home hproject home hhome hholds => simp [candidate?, hproject, hhome, hholds]
  | builtIn hproject hhome =>
      cases htree : tree.home with
      | none => simp [candidate?, hproject, htree]
      | some home => simp [candidate?, hproject, htree, hhome home htree]

theorem exists_decides (tree : FileTree) (root : Bytes) (override? : Option Bytes) :
    ∃ source, Decides tree root override? source := by
  cases override? with
  | some path => exact ⟨_, .given path⟩
  | none =>
      cases hproject : tree.holds (projectPath root) with
      | true => exact ⟨_, .project hproject⟩
      | false =>
          cases hhome : tree.home with
          | none =>
              refine ⟨_, .builtIn hproject fun home hsome => ?_⟩
              rw [hhome] at hsome
              contradiction
          | some home =>
              cases hholds : tree.holds (homePath home) with
              | true => exact ⟨_, .home hproject home hhome hholds⟩
              | false =>
                  refine ⟨_, .builtIn hproject fun home' hsome => ?_⟩
                  obtain rfl := Option.some.inj (hhome.symm.trans hsome)
                  exact hholds

/-! ### What stands there -/

/-- What stands at a path is a configuration, or it is an error that names the path. -/
theorem yields_readAt (tree : FileTree) (path : Bytes) :
    Yields Key.IsGiven tree (some path) (readAt tree path) := by
  rw [readAt]
  cases hread : (tree.read path).toOption.bind decodeUtf8? with
  | none =>
      refine .unreadable path fun text htext => ?_
      rw [bind_decodeUtf8?_read_eq_some_iff.mpr htext] at hread
      contradiction
  | some text =>
      have htext := bind_decodeUtf8?_read_eq_some_iff.mp hread
      dsimp only
      cases hdocument : ofDocument? text with
      | none => exact .invalid path text htext hdocument
      | some config =>
          obtain ⟨entries, hparse, hvalid⟩ := Option.bind_eq_some_iff.mp hdocument
          exact .valid path text htext entries hparse config hvalid fun key habsent =>
            value_of_not_isGiven hvalid habsent

/-- The place that decides yields what is loaded. -/
theorem Decides.yields (h : Decides tree root override? source) :
    Yields Key.IsGiven tree source (load tree root override?) := by
  rw [load, candidate?_of_decides h]
  cases source with
  | none => exact .builtIn
  | some path => exact yields_readAt tree path

/-- An error names the place that yields it. -/
theorem Yields.names {IsGiven : Toml.Entries → Key → Prop} {error : ConfigError}
    (h : Yields IsGiven tree source (.error error)) :
    source = some error.path ∧ error.path.shown <:+ error.message := by
  refine ⟨?_, error.path_suffix_message⟩
  cases h with
  | unreadable path htext => rfl
  | invalid path text htext hinvalid => rfl

/-! ### The switches of the command line -/

/-- A switch has turned an option off. -/
inductive TurnedOff (arguments : Arguments) (before after : Config) : Key → Prop where
  | strings (hswitch : arguments.noStrings = true)
      (hbefore : before.extract.includeStrings = true)
      (hafter : after.extract.includeStrings = false) :
      TurnedOff arguments before after .includeStrings
  | joining (hswitch : arguments.noJoining = true)
      (hbefore : before.extract.joinComments = true)
      (hafter : after.extract.joinComments = false) :
      TurnedOff arguments before after .joinComments

theorem and_not_cases : ∀ option switch : Bool,
    (option && !switch) = option ∨
      switch = true ∧ option = true ∧ (option && !switch) = false := by
  decide

/-- The switches change no option but their own, and only turn it off. -/
theorem value_override (arguments : Arguments) (config : Config) (key : Key) :
    key.value (CommandLine.override arguments config) = key.value config ∨
      TurnedOff arguments config (CommandLine.override arguments config) key := by
  cases key with
  | includeStrings =>
      rcases and_not_cases config.extract.includeStrings arguments.noStrings with
        hsame | ⟨hswitch, hbefore, hafter⟩
      · exact .inl hsame
      · exact .inr (.strings hswitch hbefore hafter)
  | joinComments =>
      rcases and_not_cases config.extract.joinComments arguments.noJoining with
        hsame | ⟨hswitch, hbefore, hafter⟩
      · exact .inl hsame
      · exact .inr (.joining hswitch hbefore hafter)
  | openBlock => exact .inl rfl
  | maxFileBytes => exact .inl rfl
  | followLinks => exact .inl rfl
  | mime extension => exact .inl rfl

/-- The configuration is decided by exactly one place, the first that applies. If what
stands there cannot be read or is no valid configuration, this is an error that names the
place; otherwise keys have their defaults of which it does not say anything. The switches
of the command line change no option but their own, and only turn it off. -/
theorem load_decided (tree : FileTree) (root : Bytes) (override? : Option Bytes) :
    ∃ source, Decides tree root override? source ∧
      (∀ other, Decides tree root override? other → other = source) ∧
      Yields Key.IsGiven tree source (load tree root override?) ∧
      (∀ error, load tree root override? = .error error →
        source = some error.path ∧ error.path.shown <:+ error.message) ∧
      ∀ arguments config (key : Key),
        key.value (CommandLine.override arguments config) = key.value config ∨
          TurnedOff arguments config (CommandLine.override arguments config) key := by
  obtain ⟨source, hdecides⟩ := exists_decides tree root override?
  refine ⟨source, hdecides, ?_, hdecides.yields, ?_, value_override⟩
  · intro other hother
    rw [← candidate?_of_decides hother, candidate?_of_decides hdecides]
  · intro error herror
    have hyields := hdecides.yields
    rw [herror] at hyields
    exact hyields.names

/-! ### A section that is an array -/

/-- The key stands by its name in the table of its section. -/
def Key.isNamed (entries : Toml.Entries) (key : Key) : Bool :=
  match entries.lookup key.sectionName with
  | some (.table _ inner) => (inner.lookup key.name).isSome
  | _ => false

/-- A document that gives the first key of a section its value by position. -/
def positional : Text := "extract = [false]\n".toList

def positionalTree : FileTree := Survey.treeOf (String.ofList positional).toUTF8

theorem holdsText_positionalTree : positionalTree.HoldsText Survey.fileName positional :=
  Survey.node_treeOf _

theorem load_positionalTree :
    load positionalTree [Path.dot] (some Survey.fileName) =
      .ok { extract := { includeStrings := false } } := by
  have hread := bind_decodeUtf8?_read_eq_some_iff.mpr holdsText_positionalTree
  have hdocument : ofDocument? positional =
      some { extract := { includeStrings := false } } := by decide +kernel
  rw [load]
  dsimp only [candidate?, Option.orElse]
  rw [readAt, hread]
  dsimp only
  rw [hdocument]

/-- A key that does not stand in the deciding document by its name need not have its
default, since an array gives it its value by position. -/
theorem not_yields_positionalTree :
    ¬∃ source, Decides positionalTree [Path.dot] (some Survey.fileName) source ∧
      Yields (fun entries key => key.isNamed entries = true) positionalTree source
        (load positionalTree [Path.dot] (some Survey.fileName)) := by
  rintro ⟨source, hdecides, hyields⟩
  rw [load_positionalTree] at hyields
  cases hdecides
  cases hyields with
  | valid _ text htext entries hparse _ hvalid hdefault =>
      obtain rfl := htext.unique holdsText_positionalTree
      have hunnamed : (Toml.parse? positional).map Key.includeStrings.isNamed = some false := by
        decide +kernel
      rw [hparse, Option.map_some, Option.some.injEq] at hunnamed
      have hvalue : false = true := hdefault .includeStrings (by rw [hunnamed]; decide)
      contradiction

end Config

end LicenseText
