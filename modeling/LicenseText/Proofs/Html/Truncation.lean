import LicenseText.Proofs.Html.Collector
import LicenseText.Proofs.Html.CommentLines

/-!
# Documents that are cut off

Of a document that is cut off anywhere, every item but the last is an item of the whole
document, and the items stand in the same order. Behind each character some items are
`certain`: those found so far, and the run of text that is held when what has been opened
will end it whatever follows. No character takes back a certain item, and the end of the
document adds at most one item to them.
-/

namespace LicenseText

namespace Html

/-- Whether what the characters read so far have opened ends the run of text in front of
it, however it goes on. -/
def Mode.endsRun : Mode → Bool
  | .declarationOpen _ | .comment _ _ | .bogusComment _ | .documentType => true
  | _ => false

namespace Tokenizer

open Collector

variable {t u : Tokenizer}

/-! ## Tokens that have been delivered -/

theorem Moves.tokens_suffix (h : t.Moves u) : t.tokens <:+ u.tokens := by
  induction h with
  | enter _ => exact List.suffix_refl _
  | deliver _ _ ih => exact (List.suffix_cons _ _).trans ih
  | name _ ih => exact ih

theorem tokens_suffix_readEndTagOpen (t : Tokenizer) (c : Char) :
    t.tokens <:+ (t.readEndTagOpen c).tokens := by
  rw [readEndTagOpen]
  repeat' split
  · exact List.suffix_cons _ _
  · exact List.suffix_refl _
  · exact List.suffix_cons _ _

theorem tokens_suffix_letters (t : Tokenizer) (chunk : Text) :
    t.tokens <:+ (t.letters chunk).tokens := by
  rw [letters]
  induction chunk generalizing t with
  | nil => exact List.suffix_refl _
  | cons c chunk ih => exact (List.suffix_cons _ _).trans (ih (t.text [c]))

/-! ## Certain items -/

/-- The items, newest first, that a document with this beginning has. -/
def certain (withStrings : Bool) (t : Tokenizer) : List Item :=
  if t.mode.endsRun then (collect withStrings t.tokens).flush.found
  else (collect withStrings t.tokens).found

section Certain

variable {withStrings : Bool} {items : List Item} {mode : Mode}

theorem certain_of_endsRun (hmode : t.mode = mode) (h : mode.endsRun = true) :
    certain withStrings t = (collect withStrings t.tokens).flush.found := by
  rw [certain, hmode, if_pos h]

theorem certain_of_not_endsRun (hmode : t.mode = mode) (h : mode.endsRun = false) :
    certain withStrings t = (collect withStrings t.tokens).found := by
  rw [certain, hmode, if_neg (Bool.eq_false_iff.mp h)]

theorem found_suffix_certain (t : Tokenizer) :
    (collect withStrings t.tokens).found <:+ certain withStrings t := by
  rw [certain]
  split
  · exact found_suffix_flush _
  · exact List.suffix_refl _

/-- In a mode that may go on with the run of text, only the tokens matter. -/
theorem certain_suffix_of_tokens (hmode : t.mode = mode) (h : mode.endsRun = false)
    (htokens : t.tokens <:+ u.tokens) :
    certain withStrings t <:+ certain withStrings u := by
  rw [certain_of_not_endsRun hmode h]
  exact (found_collect_suffix htokens).trans (found_suffix_certain u)

/-! ## Modes that end a run of text -/

section EndsRun

variable (h : items <:+ (collect withStrings t.tokens).flush.found)

include h

theorem suffix_certain_enter (hmode : mode.endsRun = true) :
    items <:+ certain withStrings (t.enter mode) := by
  rw [certain_of_endsRun rfl hmode]
  exact h

theorem suffix_certain_comment (reversed : Text) :
    items <:+ certain withStrings (t.comment reversed) := by
  have hcomment : (collect withStrings (t.comment reversed).tokens).found <:+
      certain withStrings (t.comment reversed) := found_suffix_certain _
  exact (h.trans (List.suffix_cons _ _)).trans hcomment

theorem suffix_certain_readBogusComment (text : Text) (c : Char) :
    items <:+ certain withStrings (t.readBogusComment text c) := by
  rw [readBogusComment]
  split
  · exact suffix_certain_comment h text
  · exact suffix_certain_enter h rfl

theorem suffix_certain_readDeclarationOpen (seen : Text) (c : Char) :
    items <:+ certain withStrings (t.readDeclarationOpen seen c) := by
  rw [readDeclarationOpen]
  repeat' split
  · exact suffix_certain_enter h rfl
  · exact suffix_certain_enter h rfl
  · exact suffix_certain_enter h rfl
  · exact suffix_certain_readBogusComment (t := t.deliver .malformed) h seen c

theorem suffix_certain_readComment (place : CommentPlace) (text : Text) (c : Char) :
    items <:+ certain withStrings (t.readComment place text c) := by
  rw [readComment.eq_def]
  repeat' split
  all_goals first
    | exact suffix_certain_comment h text
    | exact suffix_certain_enter h rfl

theorem suffix_certain_readDocumentType (hmode : t.mode = .documentType) (c : Char) :
    items <:+ certain withStrings (t.readDocumentType c) := by
  rw [readDocumentType]
  split
  · exact h.trans (found_suffix_certain ((t.deliver .documentType).enter .data))
  · rw [certain_of_endsRun hmode rfl]
    exact h

end EndsRun

/-! ## Reading a character -/

theorem certain_suffix_readPlain (t : Tokenizer) (c : Char) :
    certain withStrings t <:+ certain withStrings ((t.count c).readPlain c) := by
  have htokens : ∀ {mode u}, t.mode = mode → mode.endsRun = false →
      (t.count c).tokens <:+ u.tokens → certain withStrings t <:+ certain withStrings u := by
    intro mode u hmode hends hu
    rw [tokens_count] at hu
    exact certain_suffix_of_tokens hmode hends hu
  have hmoves : ∀ {mode u}, t.mode = mode → mode.endsRun = false → (t.count c).Moves u →
      certain withStrings t <:+ certain withStrings u := by
    intro mode u hmode hends hu
    exact htokens hmode hends hu.tokens_suffix
  have hheld : ∀ {mode}, t.mode = mode → mode.endsRun = true → certain withStrings t <:+
      (collect withStrings (t.count c).tokens).flush.found := by
    intro mode hmode hends
    have hcertain : certain withStrings t =
        (collect withStrings (t.count c).tokens).flush.found := by
      rw [certain_of_endsRun hmode hends, tokens_count]
    exact ⟨[], hcertain⟩
  rw [readPlain.eq_def, mode_count]
  cases hmode : t.mode with
  | data => exact hmoves hmode rfl (moves_readData _ c)
  | raw kind => exact hmoves hmode rfl (moves_readRaw _ c kind)
  | reference within reference => exact htokens hmode rfl (List.suffix_refl _)
  | tagOpen => exact hmoves hmode rfl (moves_readTagOpen _ c)
  | endTagOpen => exact htokens hmode rfl (tokens_suffix_readEndTagOpen _ c)
  | tag tag place => exact hmoves hmode rfl (moves_readTag _ c tag place)
  | rawLess kind => exact hmoves hmode rfl (moves_readRawLess _ c kind)
  | rawEndOpen kind => exact hmoves hmode rfl (moves_readRawEndOpen _ c kind)
  | rawEndName kind seen =>
      exact hmoves hmode rfl (moves_readRawEndName _ c kind seen)
  | escapeStart dashes =>
      exact hmoves hmode rfl (moves_readEscapeStart _ c dashes)
  | escapedDash kind several =>
      exact hmoves hmode rfl (moves_readEscapedDash _ c kind several)
  | doubleEscapeStart seen =>
      exact hmoves hmode rfl (moves_readDoubleEscapeStart _ c seen)
  | doubleEscapeEnd seen =>
      exact hmoves hmode rfl (moves_readDoubleEscapeEnd _ c seen)
  | declarationOpen seen =>
      exact suffix_certain_readDeclarationOpen (hheld hmode rfl) seen c
  | comment place text =>
      exact suffix_certain_readComment (hheld hmode rfl) place text c
  | bogusComment text =>
      exact suffix_certain_readBogusComment (hheld hmode rfl) text c
  | documentType =>
      exact suffix_certain_readDocumentType (hheld hmode rfl)
        (by rw [mode_count, hmode]) c

theorem certain_suffix_read (t : Tokenizer) (c : Char) :
    certain withStrings t <:+ certain withStrings (t.read c) := by
  rw [read.eq_def]
  split
  case h_1 within reference hmode =>
    have hletters : ∀ text, certain withStrings t <:+
        certain withStrings ((t.letters text).enter (around within)) := by
      intro text
      exact certain_suffix_of_tokens hmode rfl (tokens_suffix_letters t text)
    split
    · exact certain_suffix_of_tokens hmode rfl (List.suffix_refl _)
    · exact hletters _
    · exact (hletters _).trans (certain_suffix_readPlain _ c)
  case h_2 => exact certain_suffix_readPlain t c

/-- No character takes back a certain item. -/
theorem certain_suffix_step (t : Tokenizer) (c : Char) :
    certain withStrings t <:+ certain withStrings (t.step c) := by
  rw [step]
  repeat' split
  · exact certain_suffix_read t '\n'
  · exact List.suffix_refl _
  · exact certain_suffix_read t c

theorem certain_suffix_foldl (t : Tokenizer) (content : Text) :
    certain withStrings t <:+ certain withStrings (content.foldl step t) := by
  induction content generalizing t with
  | nil => exact List.suffix_refl _
  | cons c content ih => exact (certain_suffix_step t c).trans (ih (t.step c))

/-! ## The end of a document -/

theorem found_collect_letters (t : Tokenizer) (chunk : Text) :
    (collect withStrings (t.letters chunk).tokens).found =
      (collect withStrings t.tokens).found := by
  rw [letters]
  induction chunk generalizing t with
  | nil => rfl
  | cons c chunk ih =>
      rw [List.foldl_cons, ih (t.text [c])]
      cases withStrings <;> rfl

/-- At the end of a document, the certain items and at most one other have been found. -/
theorem found_close (withStrings : Bool) (t : Tokenizer) :
    certain withStrings t <:+ (collect withStrings t.close.tokens).flush.found ∧
      (collect withStrings t.close.tokens).flush.found.tail <:+ certain withStrings t := by
  -- text that the end delivers is held, so that it is the one item
  have htext : ∀ {mode} tokens, t.mode = mode → mode.endsRun = false →
      (collect withStrings tokens).found = (collect withStrings t.tokens).found →
      certain withStrings t <:+ (collect withStrings tokens).flush.found ∧
        (collect withStrings tokens).flush.found.tail <:+ certain withStrings t := by
    intro mode tokens hmode hends hfound
    rw [certain_of_not_endsRun hmode hends, ← hfound]
    exact ⟨found_suffix_flush _, tail_found_flush_suffix _⟩
  have hchunk : ∀ chunk, (collect withStrings (t.text chunk).tokens).found =
      (collect withStrings t.tokens).found := by
    intro chunk
    cases withStrings <;> rfl
  have hcomment : ∀ {mode} text, t.mode = mode → mode.endsRun = true →
      certain withStrings t <:+
          (collect withStrings (t.comment text).tokens).flush.found ∧
        (collect withStrings (t.comment text).tokens).flush.found.tail <:+
          certain withStrings t := by
    intro mode text hmode hends
    have hflush : (collect withStrings (t.comment text).tokens).flush.found =
        (collect withStrings (t.comment text).tokens).found := found_flush rfl
    rw [certain_of_endsRun hmode hends, hflush]
    exact ⟨List.suffix_cons _ _, List.suffix_refl _⟩
  rw [close.eq_def]
  cases hmode : t.mode with
  | data => exact htext _ hmode rfl rfl
  | raw kind => exact htext _ hmode rfl rfl
  | tag tag place => exact htext _ hmode rfl rfl
  | escapeStart dashes => exact htext _ hmode rfl rfl
  | escapedDash kind several => exact htext _ hmode rfl rfl
  | doubleEscapeStart seen => exact htext _ hmode rfl rfl
  | doubleEscapeEnd seen => exact htext _ hmode rfl rfl
  | reference within reference =>
      exact htext _ hmode rfl (found_collect_letters t _)
  | tagOpen => exact htext _ hmode rfl (hchunk _)
  | endTagOpen => exact htext _ hmode rfl (hchunk _)
  | rawLess kind =>
      cases kind with
      | doubleEscaped => exact htext _ hmode rfl rfl
      | _ => exact htext _ hmode rfl (hchunk _)
  | rawEndOpen kind => exact htext _ hmode rfl (hchunk _)
  | rawEndName kind seen => exact htext _ hmode rfl (hchunk _)
  | declarationOpen text => exact hcomment text hmode rfl
  | comment place text => exact hcomment text hmode rfl
  | bogusComment text => exact hcomment text hmode rfl
  | documentType =>
      rw [certain_of_endsRun hmode rfl]
      have hflush : (collect withStrings (t.deliver .documentType).tokens).flush.found =
          (collect withStrings t.tokens).flush.found := found_flush rfl
      rw [hflush]
      exact ⟨List.suffix_refl _, List.tail_suffix _⟩

end Certain

end Tokenizer

/-! ## Documents -/

theorem dropMark_append {front : Text} (h : front ≠ []) (behind : Text) :
    dropMark (front ++ behind) = dropMark front ++ behind := by
  obtain ⟨c, front, rfl⟩ := List.exists_cons_of_ne_nil h
  rw [List.cons_append, dropMark.eq_def, dropMark.eq_def]
  split
  case h_1 hmark =>
    obtain ⟨rfl, rfl⟩ := List.cons.inj hmark
    rfl
  case h_2 hplain =>
    split
    case h_1 hmark =>
      obtain ⟨rfl, rfl⟩ := List.cons.inj hmark
      exact absurd rfl (hplain _)
    case h_2 => rfl

/-- Of a document that is cut off, every item but the last stands in the whole document, and
nothing stands in front of these items or between them. -/
theorem dropLast_read_prefix (front behind : Text) (withStrings : Bool) :
    (read front withStrings).dropLast <+: read (front ++ behind) withStrings := by
  by_cases hfront : front = []
  · subst hfront
    cases withStrings <;> exact List.nil_prefix
  · rw [read_eq_collect, read_eq_collect, dropMark_append hfront, List.foldl_append,
      List.dropLast_reverse, List.reverse_prefix]
    have hcut := (Tokenizer.found_close withStrings
      ((dropMark front).foldl Tokenizer.step .start)).2
    have hwhole := (Tokenizer.found_close withStrings
      (behind.foldl Tokenizer.step ((dropMark front).foldl Tokenizer.step .start))).1
    exact hcut.trans ((Tokenizer.certain_suffix_foldl _ behind).trans hwhole)

end Html

end LicenseText
