import LicenseText.Extraction
import LicenseText.Proofs.Delimited.Lines
import LicenseText.Proofs.Html.Collector
import LicenseText.Proofs.Html.Moves
import LicenseText.Proofs.Html.NodeTokens
import LicenseText.Proofs.Item.Arrangement
import LicenseText.Proofs.Text.Lines
import LicenseText.Proofs.Xml.RoundTrip

/-!
# Documents of blanks

No reader finds anything in a document of blanks, and none refuses it. In a delimited
language none of its lines is read; in HTML all of it is one run of text that is blank; an
XML document has at most one event, which is blank text.
-/

namespace LicenseText

theorem Markup.text?_of_blank {raw : Text} (h : raw.IsBlank) (line : Nat) :
    text? raw line = none := by
  rw [text?, Text.isEmpty_trim, h.all_eq_true]
  rfl

theorem Markup.escape_of_blank {raw : Text} (h : raw.IsBlank) : escape raw = raw :=
  escape_eq_self (h.not_mem (c := '<') (by decide)) (h.not_mem (c := '&') (by decide))

/-! ## Delimited languages -/

namespace Delimited

theorem readableFrom_of_blank (number : Nat) {lines : List Text}
    (h : ∀ line ∈ lines, line.IsBlank) : readableFrom number lines = [] := by
  induction lines generalizing number with
  | nil => rfl
  | cons line rest ih =>
      have hline := (h line List.mem_cons_self).all_eq_true
      rw [readableFrom, Text.isEmpty_trim, if_pos hline]
      exact ih _ fun later hlater => h later (List.mem_cons_of_mem _ hlater)

theorem read_of_blank {content : Text} (h : content.IsBlank) (delimiters : DelimitedSyntax)
    (withStrings : Bool) (policy : OpenBlockPolicy) :
    read delimiters withStrings policy content = [] := by
  have hlines : readableLines content = [] := by
    rw [readableLines_eq]
    exact readableFrom_of_blank 1 fun line hline c hc =>
      h c (Text.subset_of_mem_lines hline hc)
  rw [read, hlines]
  cases policy <;> rfl

end Delimited

/-! ## HTML -/

namespace Html

namespace Tokenizer

/-- Nothing but blank text has been read. -/
structure OnlyBlanks (withStrings : Bool) (t : Tokenizer) : Prop where
  mode : t.mode = .data
  found : (Collector.collect withStrings t.tokens).found = []
  held : (Collector.collect withStrings t.tokens).held.IsBlank

variable {withStrings : Bool} {t : Tokenizer}

theorem onlyBlanks_start (withStrings : Bool) : OnlyBlanks withStrings start :=
  ⟨rfl, rfl, fun _ hc => absurd hc List.not_mem_nil⟩

theorem OnlyBlanks.read (h : OnlyBlanks withStrings t) {c : Char} (hc : isBlank c = true) :
    OnlyBlanks withStrings (t.read c) := by
  have hplain : ∀ d, isBlank d = false → c ≠ d := by
    rintro d hd rfl
    rw [hc] at hd
    contradiction
  have hread : t.read c = ((t.count c).text [c]).enter .data := by
    rw [Tokenizer.read, h.mode]
    dsimp only
    rw [readPlain, mode_count, h.mode]
    dsimp only
    rw [readData, if_neg (hplain '&' (by decide)), if_neg (hplain '<' (by decide)),
      if_neg (hplain '\x00' (by decide))]
  rw [hread]
  refine ⟨rfl, ?_, ?_⟩
  · dsimp only [enter, text, deliver]
    rw [tokens_count, Collector.collect_cons]
    cases withStrings <;> exact h.found
  · dsimp only [enter, text, deliver]
    rw [tokens_count, Collector.collect_cons]
    cases withStrings with
    | false => exact h.held
    | true => exact List.forall_mem_cons.mpr ⟨hc, h.held⟩

theorem OnlyBlanks.step (h : OnlyBlanks withStrings t) {c : Char} (hc : isBlank c = true) :
    OnlyBlanks withStrings (t.step c) := by
  rw [Tokenizer.step]
  split
  · have hfeed := h.read (c := '\n') (by decide)
    exact ⟨hfeed.mode, hfeed.found, hfeed.held⟩
  · split
    · exact ⟨h.mode, h.found, h.held⟩
    · have hread := h.read hc
      exact ⟨hread.mode, hread.found, hread.held⟩

theorem OnlyBlanks.foldl {content : Text} (hcontent : content.IsBlank)
    (h : OnlyBlanks withStrings t) : OnlyBlanks withStrings (content.foldl Tokenizer.step t) := by
  induction content generalizing t with
  | nil => exact h
  | cons c content ih =>
      obtain ⟨hc, hcontent⟩ := List.forall_mem_cons.mp hcontent
      exact ih hcontent (h.step hc)

end Tokenizer

theorem read_of_blank {content : Text} (h : content.IsBlank) (withStrings : Bool) :
    read content withStrings = [] := by
  have hread := (Tokenizer.onlyBlanks_start withStrings).foldl h
  have hclose : (content.foldl Tokenizer.step .start).close =
      content.foldl Tokenizer.step .start := by
    rw [Tokenizer.close, hread.mode]
  have hblank := Markup.text?_of_blank (fun c hc => hread.held c (List.mem_reverse.mp hc))
  rw [read_eq_collect, dropMark_eq_self (h.head?_ne (by decide)), hclose, Collector.flush,
    hblank, hread.found]
  rfl

end Html

/-! ## XML -/

namespace Xml

/-- The events of a document of blanks: there is one, unless the document is empty. -/
theorem events_of_blank {content : Text} (h : content.IsBlank) :
    ∃ all, events content = .ok all ∧ ∀ event ∈ all, event.kind = .text content := by
  have hwrite := @Node.eventsFrom_write (.text content) trivial [] (by simp) 0
  rw [Node.write, Markup.escape_of_blank h, List.append_nil, eventsFrom] at hwrite
  refine ⟨((Node.text content).event? 0).toList ++ [], ?_, ?_⟩
  · rw [events, dropMark_eq_self (h.head?_ne (by decide)), hwrite]
    rfl
  · intro event hevent
    rw [List.append_nil, Node.event?] at hevent
    split at hevent
    · contradiction
    · obtain rfl := List.mem_singleton.mp hevent
      exact congrArg EventKind.text (Markup.escape_of_blank h)

theorem read_of_blank {content : Text} (h : content.IsBlank) (withStrings : Bool) :
    read content withStrings = .ok [] := by
  obtain ⟨all, hall, hkind⟩ := events_of_blank h
  have hdecode : decode? content = some content := by
    have hdecoded := decode?_escape content
    rwa [Markup.escape_of_blank h] at hdecoded
  have hitems : all.filterMap (itemAt? content withStrings) = [] := by
    rw [List.filterMap_eq_nil_iff]
    intro event hevent
    rw [itemAt?, itemOf?, hkind event hevent]
    dsimp only
    rw [hdecode, Option.getD_some, Markup.text?_of_blank h]
    exact ite_self none
  rw [read, hall, Except.map, itemsOf_eq_filterMap (eventsPlaced_events hall), hitems]

end Xml

/-! ## Documents -/

/-- No items are found in a document of blanks, whatever its type. -/
theorem itemsOrNone_of_blank {content : Text} (h : content.IsBlank) (type : FileType)
    (options : ExtractOptions) : itemsOrNone content type options = .ok [] := by
  rw [itemsOrNone, items, foundItems]
  cases type.syntax? with
  | none => rfl
  | some langSyntax =>
      have hfound : ∀ found, found = [] →
          (if options.joinComments then arrange found else found) = [] := by
        rintro found rfl
        rw [arrange_nil]
        exact ite_self []
      cases langSyntax with
      | delimited delimiters =>
          exact congrArg Except.ok (hfound _ (Delimited.read_of_blank h _ _ _))
      | markup kind =>
          cases kind with
          | html => exact congrArg Except.ok (hfound _ (Html.read_of_blank h _))
          | xml =>
              dsimp only
              rw [Xml.read_of_blank h]
              exact congrArg Except.ok (hfound [] rfl)

end LicenseText
