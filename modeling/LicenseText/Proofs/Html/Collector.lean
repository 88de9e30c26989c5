import Mathlib.Data.List.Basic
import LicenseText.Html.Reader
import LicenseText.Proofs.Text.Breaks

/-!
# What is collected of the tokens

Items that have been found stay found, whatever tokens come behind. The end of a run of
text adds at most one item, and the tokens that end a run add what was held in front of
what they are themselves.
-/

namespace LicenseText

namespace Html

/-- The question marks that are removed are no line feeds. -/
theorem breaks_instructionInside (raw : Text) :
    Text.breaks (instructionInside raw) = Text.breaks raw := by
  have hmark : ∀ t, Text.breaks ('?' :: t) = Text.breaks t := fun t => Text.breaks_cons '?' t
  rw [instructionInside.eq_def]
  split
  case h_1 rest =>
    rw [hmark]
    cases hclose : ['?'].isSuffixOf? rest with
    | none => rfl
    | some inside =>
        have happend := Text.breaks_append inside ['?']
        rw [List.append_eq_of_isSuffixOf?_eq_some hclose] at happend
        rw [happend, hmark]
        rfl
  case h_2 => rfl

theorem instructionInside_of_head_ne {raw : Text} (h : ¬['?'] <+: raw) :
    instructionInside raw = raw := by
  rw [instructionInside.eq_def]
  split
  case h_1 rest => exact absurd ⟨rest, rfl⟩ h
  case h_2 => rfl

namespace Collector

variable {collector : Collector} {withStrings : Bool}

/-! ## The end of a run of text -/

theorem found_flush (h : collector.held = []) : collector.flush.found = collector.found := by
  rw [flush, h]
  rfl

theorem found_suffix_flush (collector : Collector) :
    collector.found <:+ collector.flush.found :=
  List.suffix_append _ _

/-- The end of a run of text adds at most one item. -/
theorem tail_found_flush_suffix (collector : Collector) :
    collector.flush.found.tail <:+ collector.found := by
  rw [flush]
  cases Markup.text? collector.held.reverse collector.heldLine with
  | none => exact List.tail_suffix _
  | some literal => exact List.suffix_refl _

/-! ## Tokens -/

theorem found_suffix_step (collector : Collector) (located : LocatedToken) :
    collector.found <:+ (collector.step withStrings located).found := by
  obtain ⟨token, line⟩ := located
  have hflush := collector.found_suffix_flush
  cases token with
  | text chunk => cases withStrings <;> exact List.suffix_refl _
  | null => exact List.suffix_refl _
  | malformed => exact List.suffix_refl _
  | comment raw => exact hflush.trans (List.suffix_cons _ _)
  | startTag name selfClosing => exact hflush
  | endTag name => exact hflush
  | documentType => exact hflush
  | endOfDocument => exact hflush

/-- A comment token behind which the tokenizer stands on the line of its end is a comment on
the line of its start. -/
theorem step_comment (collector : Collector) (raw : Text) (line : Nat) :
    collector.step withStrings ⟨.comment raw, line + Text.breaks raw⟩ =
      { collector.flush with
        found := .comment (Markup.comment (instructionInside raw) line) ::
          collector.flush.found } := by
  have hline : line + Text.breaks raw - Text.breaks (instructionInside raw) = line := by
    rw [breaks_instructionInside, Nat.add_sub_cancel]
  simp only [step, comment, hline]

/-- What is collected of tokens that stand newest first. -/
def collect (withStrings : Bool) (tokens : List LocatedToken) : Collector :=
  tokens.foldr (fun token collector => step withStrings collector token) start

theorem collect_cons (located : LocatedToken) (earlier : List LocatedToken) :
    collect withStrings (located :: earlier) =
      (collect withStrings earlier).step withStrings located := rfl

theorem itemsOf_reverse (tokens : List LocatedToken) :
    itemsOf withStrings tokens.reverse =
      (collect withStrings tokens).flush.found.reverse := by
  rw [itemsOf, List.foldl_reverse]
  rfl

/-- Later tokens take back nothing that was found. -/
theorem found_collect_suffix {earlier tokens : List LocatedToken}
    (h : earlier <:+ tokens) :
    (collect withStrings earlier).found <:+ (collect withStrings tokens).found := by
  obtain ⟨later, rfl⟩ := h
  induction later with
  | nil => exact List.suffix_refl _
  | cons located later ih => exact ih.trans (found_suffix_step _ located)

end Collector

/-- The items of a document are those that have been collected once it has been closed and
the last run of text has ended. -/
theorem read_eq_collect (content : Text) (withStrings : Bool) :
    read content withStrings =
      (Collector.collect withStrings
        ((dropMark content).foldl Tokenizer.step .start).close.tokens).flush.found.reverse := by
  rw [read, tokens, Tokenizer.finish, Collector.itemsOf_reverse]
  exact congrArg List.reverse (Collector.found_flush rfl)

end Html

end LicenseText
