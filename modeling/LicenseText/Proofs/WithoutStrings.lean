import LicenseText.Proofs.Extraction
import LicenseText.Proofs.Item.CommentsOnly
import LicenseText.Proofs.License.Keywords

/-!
# Reading without strings

Each reader, run on a document without strings and with them, goes through the same
states, except for what it holds of the strings themselves; so the items that it finds
without strings are the comments among those that it finds with them. This passes through
the arrangement of the items to everything that depends on the comments alone.
-/

namespace LicenseText

namespace Delimited

open Progress

variable {delimiters : DelimitedSyntax} {silent full : Progress}

/-- `silent` has been read without strings and `full` with them. -/
structure Progress.Silences (silent full : Progress) : Prop where
  block : silent.block = full.block
  found : silent.found = full.found.filter Item.isComment

theorem filter_reportedStrings (withStrings : Bool) (line : NumberedLine) :
    (reportedStrings delimiters withStrings line).filter Item.isComment = [] := by
  rw [filter_isComment_eq_map, commentsOf_reportedStrings, List.map_nil]

theorem Progress.Silences.step (h : silent.Silences full) (line : NumberedLine) :
    (silent.step delimiters false line).Silences (full.step delimiters true line) where
  block := by rw [block_step, block_step, h.block]
  found := by
    simp only [Progress.step, h.block, h.found, List.reverse_append, List.filter_append,
      List.filter_reverse, filter_reportedStrings]
    cases (full.block.feed delimiters line).2 with
    | none => simp [reportedStrings]
    | some comment => simp [reportedStrings, List.filter_cons]

theorem Progress.Silences.foldl (h : silent.Silences full)
    (delimiters : DelimitedSyntax) (lines : List NumberedLine) :
    (lines.foldl (Progress.step delimiters false) silent).Silences
      (lines.foldl (Progress.step delimiters true) full) := by
  induction lines generalizing silent full with
  | nil => exact h
  | cons line lines ih => exact ih (h.step line)

theorem read_withoutStrings (delimiters : DelimitedSyntax) (policy : OpenBlockPolicy)
    (content : Text) :
    read delimiters false policy content =
      (read delimiters true policy content).filter Item.isComment := by
  have hstart : Progress.start.Silences Progress.start := ⟨rfl, rfl⟩
  have hend := hstart.foldl delimiters (readableLines content)
  rw [read, read, Progress.finish, Progress.finish, hend.block, hend.found,
    List.filter_append, List.filter_reverse]
  congr 1
  cases BlockState.finish? _ policy <;> rfl

end Delimited

namespace Html

namespace Collector

variable {silent full : Collector}

/-- `silent` has collected tokens without their text and `full` with it. -/
structure Silences (silent full : Collector) : Prop where
  held : silent.held = []
  found : silent.found = full.found.filter Item.isComment

theorem filter_found_flush (collector : Collector) :
    collector.flush.found.filter Item.isComment =
      collector.found.filter Item.isComment := by
  cases htext : Markup.text? collector.held.reverse collector.heldLine with
  | none => simp [flush, htext]
  | some literal => simp [flush, htext]

theorem Silences.flush (h : silent.Silences full) : silent.flush.Silences full.flush where
  held := rfl
  found := by rw [found_flush h.held, filter_found_flush, h.found]

theorem Silences.step (h : silent.Silences full) (located : LocatedToken) :
    (silent.step false located).Silences (full.step true located) := by
  obtain ⟨token, line⟩ := located
  cases token with
  | text chunk => exact ⟨h.held, h.found⟩
  | null => exact h
  | malformed => exact h
  | comment raw =>
      have hflush := h.flush
      refine ⟨rfl, ?_⟩
      simp only [Collector.step, comment, hflush.found]
      rw [List.filter_cons_of_pos (Item.isComment_comment _)]
  | startTag name selfClosing => exact h.flush
  | endTag name => exact h.flush
  | documentType => exact h.flush
  | endOfDocument => exact h.flush

theorem Silences.foldl (h : silent.Silences full) (tokens : List LocatedToken) :
    (tokens.foldl (Collector.step false) silent).Silences
      (tokens.foldl (Collector.step true) full) := by
  induction tokens generalizing silent full with
  | nil => exact h
  | cons token tokens ih => exact ih (h.step token)

end Collector

theorem itemsOf_withoutStrings (tokens : List LocatedToken) :
    itemsOf false tokens = (itemsOf true tokens).filter Item.isComment := by
  have hstart : Collector.start.Silences Collector.start := ⟨rfl, rfl⟩
  have hend := (hstart.foldl tokens).flush
  rw [itemsOf, itemsOf, Collector.finish, Collector.finish, hend.found, List.filter_reverse]

theorem read_withoutStrings (content : Text) :
    read content false = (read content true).filter Item.isComment :=
  itemsOf_withoutStrings (tokens content)

end Html

namespace Xml

theorem itemAt?_withoutStrings (content : Text) (event : Event) :
    itemAt? content false event = (itemAt? content true event).filter Item.isComment := by
  rw [itemAt?, itemAt?, itemOf?, itemOf?]
  cases event.kind with
  | comment inside => rfl
  | instruction => rfl
  | markup => rfl
  | text raw =>
      dsimp only
      cases Markup.text? ((decode? raw).getD raw) (Text.lineAt content event.start) <;> rfl
  | characterData inside =>
      dsimp only
      cases Markup.text? inside (Text.lineAt content event.start) <;> rfl

theorem read_withoutStrings (content : Text) :
    read content false =
      (read content true).map fun found => found.filter Item.isComment := by
  rw [read, read]
  cases hevents : events content with
  | error failure => rfl
  | ok all =>
      have hplaced := eventsPlaced_events hevents
      have hitems : itemsOf content false all =
          (itemsOf content true all).filter Item.isComment := by
        rw [itemsOf_eq_filterMap hplaced, itemsOf_eq_filterMap hplaced,
          List.filter_filterMap]
        congr 1
        funext event
        exact itemAt?_withoutStrings content event
      exact congrArg Except.ok hitems

end Xml

/-! ## Extraction -/

theorem foundItems_withoutStrings (content : Text) (type : FileType)
    (options : ExtractOptions) :
    foundItems content type { options with includeStrings := false } =
      (foundItems content type { options with includeStrings := true }).map
        fun found => found.filter Item.isComment := by
  rw [foundItems, foundItems]
  cases type.syntax? with
  | none => rfl
  | some kind =>
      cases kind with
      | delimited delimiters =>
          exact congrArg Except.ok
            (Delimited.read_withoutStrings delimiters options.openBlock content)
      | markup markup =>
          cases markup with
          | html => exact congrArg Except.ok (Html.read_withoutStrings content)
          | xml =>
              dsimp only
              rw [Xml.read_withoutStrings]
              cases Xml.read content true <;> rfl

theorem items_withoutStrings (content : Text) (type : FileType)
    (options : ExtractOptions) :
    items content type { options with includeStrings := false } =
      (items content type { options with includeStrings := true }).map
        fun all => all.filter Item.isComment := by
  rw [items, items, foundItems_withoutStrings]
  cases hall : foundItems content type { options with includeStrings := true } with
  | error e => rfl
  | ok found =>
      obtain ⟨last, horder⟩ := inOrder_foundItems hall
      simp only [Except.map]
      cases options.joinComments with
      | true => exact congrArg Except.ok (arrange_filter_isComment horder)
      | false => rfl

/-- Whether strings are asked for does not decide whether a document can be read, and why
not; and if it can, what is found without strings are the comments among what is found
with them, in the same order. So the license header is the same, and a relevant literal
found without strings is found with them. -/
theorem items_includeStrings (content : Text) (type : FileType) (options : ExtractOptions) :
    (∃ e, items content type { options with includeStrings := false } = .error e ∧
        items content type { options with includeStrings := true } = .error e) ∨
      ∃ comments all,
        items content type { options with includeStrings := false } = .ok comments ∧
        items content type { options with includeStrings := true } = .ok all ∧
        comments = all.filter Item.isComment ∧
        header? comments = header? all ∧
        ((∃ literal ∈ comments.map Item.text, isRelevant literal) →
          ∃ literal ∈ all.map Item.text, isRelevant literal) := by
  rw [items_withoutStrings]
  cases items content type { options with includeStrings := true } with
  | error e => exact .inl ⟨e, rfl, rfl⟩
  | ok all =>
      refine .inr ⟨all.filter Item.isComment, all, rfl, rfl, rfl, ?_, ?_⟩
      · exact header?_congr (commentsOf_filter_isComment all)
      · rintro ⟨literal, hmem, hrelevant⟩
        obtain ⟨item, hitem, rfl⟩ := List.mem_map.mp hmem
        have hfull : item ∈ all := List.mem_of_mem_filter hitem
        exact ⟨item.text, List.mem_map_of_mem hfull, hrelevant⟩

end LicenseText
