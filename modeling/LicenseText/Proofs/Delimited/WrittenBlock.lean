import LicenseText.Proofs.Delimited.Block
import LicenseText.Proofs.Delimited.Lines
import LicenseText.Proofs.Delimited.Source
import LicenseText.Proofs.Text.Occurrence
import LicenseText.Proofs.Text.Trim

/-!
# Block comments that were written

A block comment that was written is read as the comment with its lines. The delimiters of
a language hold no blanks, and a space separates them from the text of a comment, so no
delimiter is found that was not written.
-/

namespace LicenseText

namespace Delimited

open BlockState

/-! ## Delimiters -/

/-- A delimiter is not empty and holds no blanks. -/
def IsToken (token : Text) : Prop := token ≠ [] ∧ ∀ c ∈ token, isBlank c = false

namespace IsToken

variable {token text : Text}

theorem space_not_mem (h : IsToken token) : ' ' ∉ token := by
  intro hmem
  exact absurd (h.2 ' ' hmem) (by decide)

theorem trim_eq (h : IsToken token) : token.trim = token := Text.trim_eq_self h.2

/-- Behind a token at the start of a line, what was written remains, up to blanks. -/
theorem trim_append_space (h : IsToken token) (htext : text.trim = text) :
    ∃ rest, (token ++ ' ' :: text).trim = token ++ rest ∧ rest.trim = text ∧
      (rest = [] ∨ rest = ' ' :: text) := by
  cases text with
  | nil =>
      refine ⟨[], ?_, rfl, .inl rfl⟩
      rw [Text.trim_concat_blank (by decide), h.trim_eq, List.append_nil]
  | cons c rest =>
      refine ⟨' ' :: c :: rest, ?_, Text.trim_cons_space htext, .inr rfl⟩
      exact Text.trim_append_space h.trim_eq h.1 htext (by simp)

end IsToken

/-- The delimiters of a language can be told apart, also where a decoration precedes
them. -/
structure Separable (language : CommentLanguage) : Prop where
  start : IsToken language.start
  opening : IsToken language.block.opening
  closing : IsToken language.block.closing
  start_opening : ¬language.start <+: language.block.opening
  decoration : ∀ decoration ∈ language.block.interior, IsToken decoration ∧
    ¬language.block.opening <+: decoration ∧ ¬language.block.closing <:+ decoration

theorem separable_of_mem {language : CommentLanguage}
    (h : language.delimiters ∈ [DelimitedSyntax.cLike, .python, .php]) :
    Separable language := by
  obtain ⟨start, block, quotes⟩ := language
  simp only [CommentLanguage.delimiters, DelimitedSyntax.cLike, DelimitedSyntax.python,
    DelimitedSyntax.php, List.mem_cons, List.not_mem_nil, or_false, DelimitedSyntax.mk.injEq,
    Option.some.injEq] at h
  rcases h with ⟨rfl, rfl, -⟩ | ⟨rfl, rfl, -⟩ | ⟨rfl, rfl, -⟩
  all_goals
    constructor <;> simp [IsToken] <;> decide

/-! ## Lines -/

section Feed

variable {language : CommentLanguage} {state : BlockState} {text rest : Text} {number : Nat}

theorem feed_line (rest : Text) (number : Nat) :
    feed language.delimiters .outside ⟨number, language.start ++ rest⟩ =
      (.outside, some (.onLine rest.trim number)) := by
  simp [feed, outside, CommentLanguage.delimiters, Text.isPrefixOf?_append]

theorem feed_outside (hstart : ¬language.start <+: text) :
    feed language.delimiters .outside ⟨number, text⟩ =
      feedOutside .outside language.block ⟨number, text⟩ := by
  simp [feed, outside, CommentLanguage.delimiters, Text.isPrefixOf?_eq_none hstart]

theorem feed_code (hstart : ¬language.start <+: text)
    (hopening : ¬language.block.opening <+: text) :
    feed language.delimiters .outside ⟨number, text⟩ = (.outside, none) := by
  rw [feed_outside hstart, feedOutside, Text.isPrefixOf?_eq_none hopening]

/-- A line that opens a block. -/
theorem feed_opening (hstart : ¬language.start <+: language.block.opening ++ rest)
    (hclosing : ¬language.block.closing <:+: rest) :
    feed language.delimiters .outside ⟨number, language.block.opening ++ rest⟩ =
      (hold .outside number rest.trim, none) := by
  have hsuffix : ¬language.block.closing <:+ rest := fun h => hclosing h.isInfix
  rw [feed_outside hstart, feedOutside, Text.isPrefixOf?_append]
  dsimp only
  rw [BlockDelimiters.closedIn?, Text.isSuffixOf?_eq_none hsuffix,
    Text.before?_eq_none hclosing]

/-- A line that opens a block and closes it. -/
theorem feed_whole (front : Text)
    (hstart : ¬language.start <+: language.block.opening ++ (front ++ language.block.closing)) :
    feed language.delimiters .outside
        ⟨number, language.block.opening ++ (front ++ language.block.closing)⟩ =
      (.outside, some (.onLine front.trim number)) := by
  rw [feed_outside hstart, feedOutside, Text.isPrefixOf?_append]
  dsimp only
  rw [BlockDelimiters.closedIn?, Text.isSuffixOf?_append]

theorem feed_inside (hin : state.inBlock = true)
    (hopening : ¬language.block.opening <+: text)
    (hclosing : ¬language.block.closing <:+ text) :
    feed language.delimiters state ⟨number, text⟩ =
      (state.hold number (language.block.undecorate text), none) := by
  rw [feed, if_pos hin]
  dsimp only [CommentLanguage.delimiters]
  rw [feedInside, Text.isSuffixOf?_eq_none hclosing, if_neg]
  rwa [List.isPrefixOf_iff_prefix]

theorem feed_closing (hin : state.inBlock = true) (front : Text) :
    feed language.delimiters state ⟨number, front ++ language.block.closing⟩ =
      (.outside, (state.hold number (language.block.undecorate front.trim)).comment?) := by
  rw [feed, if_pos hin]
  dsimp only [CommentLanguage.delimiters]
  rw [feedInside, Text.isSuffixOf?_append]

end Feed

/-! ## Blocks -/

/-- Holds back lines, the first of which has the given number. -/
def holdLines (state : BlockState) (number : Nat) : List Text → BlockState
  | [] => state
  | line :: rest => holdLines (state.hold number line) (number + 1) rest

theorem inBlock_holdLines {state : BlockState} (h : state.inBlock = true) (number : Nat)
    (lines : List Text) : (holdLines state number lines).inBlock = true := by
  induction lines generalizing state number with
  | nil => exact h
  | cons line rest ih => exact ih rfl _

theorem texts_holdLines (state : BlockState) (number : Nat) (lines : List Text) :
    (holdLines state number lines).held.reverse.map NumberedLine.text =
      state.held.reverse.map NumberedLine.text ++ lines := by
  induction lines generalizing state number with
  | nil => rw [holdLines, List.append_nil]
  | cons line rest ih =>
      rw [holdLines, ih]
      simp [hold]

/-- The block still starts where it was opened. -/
theorem openingLine_holdLines (state : BlockState) (number : Nat) (first : Text)
    (lines : List Text) (later next : Nat) :
    (holdLines (state.hold number first) later lines).openingLine next =
      state.openingLine number := by
  induction lines generalizing state number first later with
  | nil => exact openingLine_hold number first next
  | cons line rest ih => rw [holdLines, ih, openingLine_hold]

theorem comment?_holdLines (first last : Text) (middle : List Text) (number final : Nat) :
    ((holdLines (hold .outside number first) (number + 1) middle).hold final last).comment? =
      some (.written (first :: (middle ++ [last])) number final) := by
  have hfirst : BlockState.outside.openingLine number = number :=
    openingLine_of_held_eq_nil rfl number
  have htexts := texts_holdLines (hold .outside number first) (number + 1) middle
  rw [comment?_hold, openingLine_holdLines, hfirst]
  rw [hold, List.reverse_cons, List.map_append, htexts]
  rfl

section Blocks

variable {language : CommentLanguage} {state : BlockState} {number : Nat} {found : List Item}

/-- The reader with no interest in string literals. -/
abbrev step (language : CommentLanguage) : Progress → NumberedLine → Progress :=
  Progress.step language.delimiters false

theorem step_of_feed {line : NumberedLine} {comment? : Option Comment} {next : BlockState}
    (h : feed language.delimiters state line = (next, comment?)) :
    step language ⟨state, found⟩ line =
      ⟨next, (comment?.map Item.comment).toList ++ found⟩ := by
  rw [step, Progress.step]
  dsimp only
  rw [h]
  cases comment? <;> rfl

theorem foldl_step_cons {raw : Text} (hraw : raw.trim ≠ []) (rest : List Text)
    (progress : Progress) :
    (readableFrom number (raw :: rest)).foldl (step language) progress =
      (readableFrom (number + 1) rest).foldl (step language)
        (step language progress ⟨number, raw.trim⟩) := by
  rw [readableFrom, if_neg (by simpa using hraw), List.foldl_cons]

/-- Inside a block, the line `raw` is held back as `line`. -/
def HeldAs (language : CommentLanguage) (raw line : Text) : Prop :=
  raw.trim ≠ [] ∧ ∀ (state : BlockState) (number : Nat), state.inBlock = true →
    feed language.delimiters state ⟨number, raw.trim⟩ = (state.hold number line, none)

theorem foldl_step_inside {write : Text → Text} {lines rest : List Text}
    (hlines : ∀ line ∈ lines, HeldAs language (write line) line)
    (hin : state.inBlock = true) :
    (readableFrom number (lines.map write ++ rest)).foldl (step language) ⟨state, found⟩ =
      (readableFrom (number + lines.length) rest).foldl (step language)
        ⟨holdLines state number lines, found⟩ := by
  induction lines generalizing state number with
  | nil => rfl
  | cons line lines ih =>
      obtain ⟨hraw, hheld⟩ := hlines line (List.mem_cons_self ..)
      rw [List.map_cons, List.cons_append, foldl_step_cons hraw,
        step_of_feed (hheld state number hin), List.length_cons, Nat.add_comm lines.length,
        ← Nat.add_assoc]
      exact ih (fun later hlater => hlines later (List.mem_cons_of_mem _ hlater)) rfl

/-- A block that is opened on one line and closed on a later one. -/
theorem foldl_step_block {opening closing first last : Text} {write : Text → Text}
    {middle : List Text} (hopening : opening.trim ≠ [])
    (hfirst : feed language.delimiters .outside ⟨number, opening.trim⟩ =
      (hold .outside number first, none))
    (hmiddle : ∀ line ∈ middle, HeldAs language (write line) line)
    (hclosing : closing.trim ≠ [])
    (hlast : ∀ (state : BlockState) (number : Nat), state.inBlock = true →
      feed language.delimiters state ⟨number, closing.trim⟩ =
        (.outside, (state.hold number last).comment?)) :
    (readableFrom number (opening :: (middle.map write ++ [closing]))).foldl (step language)
        ⟨.outside, found⟩ =
      ⟨.outside, .comment (.written (first :: (middle ++ [last])) number
        (number + 1 + middle.length)) :: found⟩ := by
  rw [foldl_step_cons hopening, step_of_feed hfirst, foldl_step_inside hmiddle rfl,
    foldl_step_cons hclosing, step_of_feed (hlast _ _ (inBlock_holdLines rfl _ _)),
    comment?_holdLines]
  rfl

end Blocks

/-! ## Plain blocks -/

namespace Separable

variable {language : CommentLanguage} {lines middle : List Text} {line first last : Text}
  {state : BlockState} {number : Nat} {found : List Item}

theorem not_start_opening (hseparable : Separable language) (text : Text) :
    ¬language.start <+: language.block.opening ++ ' ' :: text := by
  intro hprefix
  exact hseparable.start_opening
    (Text.prefix_of_prefix_append_cons hseparable.start.space_not_mem hprefix)

theorem trim_opening (hseparable : Separable language) (hline : line.trim = line)
    (hne : line ≠ []) :
    (language.block.opening ++ ' ' :: line).trim = language.block.opening ++ ' ' :: line :=
  Text.trim_append_space hseparable.opening.trim_eq hseparable.opening.1 hline hne

theorem trim_closing (hseparable : Separable language) (hline : line.trim = line)
    (hne : line ≠ []) :
    (line ++ ' ' :: language.block.closing).trim = line ++ ' ' :: language.block.closing :=
  Text.trim_append_space hline hne hseparable.closing.trim_eq hseparable.closing.1

theorem undecorate_of_plain (hinterior : language.block.interior = none) (text : Text) :
    language.block.undecorate text = text := by
  rw [BlockDelimiters.undecorate, hinterior]
  rfl

/-- A block comment on one line. -/
theorem foldl_step_single (hseparable : Separable language) (hline : line.trim = line)
    (hne : line ≠ []) :
    (readableFrom number [language.block.opening ++ ' ' ::
        (line ++ ' ' :: language.block.closing)]).foldl (step language) ⟨.outside, found⟩ =
      ⟨.outside, .comment (.onLine line number) :: found⟩ := by
  have htrim := hseparable.trim_opening (hseparable.trim_closing hline hne) (by simp)
  have hparts : ' ' :: (line ++ ' ' :: language.block.closing) =
      (' ' :: (line ++ [' '])) ++ language.block.closing := by simp
  have hfeed : feed language.delimiters .outside ⟨number, language.block.opening ++
      ' ' :: (line ++ ' ' :: language.block.closing)⟩ =
        (.outside, some (.onLine line number)) := by
    have hstart := hseparable.not_start_opening (line ++ ' ' :: language.block.closing)
    rw [hparts] at hstart ⊢
    rw [feed_whole _ hstart, Text.trim_cons_blank (by decide), Text.trim_concat_space hline]
  rw [foldl_step_cons (by rw [htrim]; simp), htrim, step_of_feed hfeed]
  rfl

theorem heldAs_self (hinterior : language.block.interior = none)
    (h : language.block.Admits lines) (hline : line ∈ lines) : HeldAs language line line := by
  obtain ⟨hne, hopening⟩ := (h.plain hinterior).2 line hline
  have hclosing : ¬language.block.closing <:+ line := fun hsuffix =>
    h.unclosed line hline hsuffix.isInfix
  rw [HeldAs, h.trimmed line hline]
  refine ⟨hne, ?_⟩
  intro state number hin
  rw [feed_inside hin hopening hclosing, undecorate_of_plain hinterior]

/-- A block comment on several lines. -/
theorem foldl_step_several (hseparable : Separable language)
    (hinterior : language.block.interior = none)
    (h : language.block.Admits (first :: (middle ++ [last]))) :
    (readableFrom number ((language.block.opening ++ ' ' :: first) ::
        (middle ++ [last ++ ' ' :: language.block.closing]))).foldl (step language)
        ⟨.outside, found⟩ =
      ⟨.outside, .comment (.written (first :: (middle ++ [last])) number
        (number + 1 + middle.length)) :: found⟩ := by
  have hfirst := h.trimmed first (by simp)
  have hlast := h.trimmed last (by simp)
  have htrimFirst := hseparable.trim_opening hfirst ((h.plain hinterior).2 first (by simp)).1
  have htrimLast := hseparable.trim_closing hlast ((h.plain hinterior).2 last (by simp)).1
  have hunclosed : ¬language.block.closing <:+: ' ' :: first := fun hinfix =>
    h.unclosed first (by simp)
      (Text.infix_of_infix_cons hseparable.closing.space_not_mem hinfix)
  have hparts : last ++ ' ' :: language.block.closing =
      (last ++ [' ']) ++ language.block.closing := by simp
  conv_lhs => rw [← List.map_id middle]
  apply foldl_step_block
  · simp [htrimFirst]
  · rw [htrimFirst, feed_opening (hseparable.not_start_opening first) hunclosed,
      Text.trim_cons_space hfirst]
  · intro line hline
    exact heldAs_self hinterior h (by simp [hline])
  · simp [htrimLast]
  · intro state number hin
    rw [htrimLast, hparts, feed_closing hin, Text.trim_concat_space hlast,
      undecorate_of_plain hinterior]

theorem foldl_step_writePlain (hseparable : Separable language)
    (hinterior : language.block.interior = none) (h : language.block.Admits lines) :
    (readableFrom number (language.block.writePlain lines)).foldl (step language)
        ⟨.outside, found⟩ =
      ⟨.outside, .comment (.written lines number
        (number + (language.block.writePlain lines).length - 1)) :: found⟩ := by
  rcases List.eq_nil_or_concat lines with rfl | ⟨front, last, rfl⟩
  · exact absurd rfl (h.plain hinterior).1
  · rw [List.concat_eq_append] at h ⊢
    rw [BlockDelimiters.writePlain, List.modifyLast_concat]
    cases front with
    | nil =>
        have hmem : last ∈ [] ++ [last] := by simp
        exact hseparable.foldl_step_single (h.trimmed last hmem)
          ((h.plain hinterior).2 last hmem).1
    | cons first middle =>
        have hlength : number + 1 + middle.length =
            number + (middle.length + 1 + 1) - 1 := by omega
        rw [List.cons_append, List.cons_append, List.modifyHead_cons,
          hseparable.foldl_step_several hinterior h, List.length_cons, List.length_append,
          List.length_singleton, hlength]

/-! ## Documentation blocks -/

theorem heldAs_decorate (hseparable : Separable language) {decoration : Text}
    (hinterior : language.block.interior = some decoration)
    (h : language.block.Admits lines) (hline : line ∈ lines) :
    HeldAs language (BlockDelimiters.decorate decoration line) line := by
  obtain ⟨htoken, hopening, hclosing⟩ := hseparable.decoration decoration hinterior
  obtain ⟨rest, htrim, hrest, hcases⟩ := htoken.trim_append_space (h.trimmed line hline)
  have hnotOpening : ¬language.block.opening <+: decoration ++ rest := by
    rcases hcases with rfl | rfl
    · rwa [List.append_nil]
    · exact fun hprefix => hopening
        (Text.prefix_of_prefix_append_cons hseparable.opening.space_not_mem hprefix)
  have hnotClosing : ¬language.block.closing <:+ decoration ++ rest := by
    rcases hcases with rfl | rfl
    · rwa [List.append_nil]
    · exact fun hsuffix => h.unclosed line hline
        (Text.suffix_of_suffix_append_cons hseparable.closing.space_not_mem hsuffix).isInfix
  rw [HeldAs, BlockDelimiters.decorate, Text.trim_cons_blank (by decide), htrim]
  refine ⟨by simp [htoken.1], ?_⟩
  intro state number hin
  rw [feed_inside hin hnotOpening hnotClosing, BlockDelimiters.undecorate, hinterior,
    Option.bind_some, Text.isPrefixOf?_append]
  dsimp only
  rw [hrest]

theorem undecorate_nil (hseparable : Separable language) :
    language.block.undecorate [] = [] := by
  rw [BlockDelimiters.undecorate]
  cases hinterior : language.block.interior with
  | none => rfl
  | some decoration =>
      obtain ⟨htoken, -⟩ := hseparable.decoration decoration hinterior
      rw [Option.bind_some, Text.isPrefixOf?_eq_none]
      rw [List.prefix_nil]
      exact htoken.1

theorem foldl_step_documentation (hseparable : Separable language) {decoration : Text}
    (hinterior : language.block.interior = some decoration)
    (h : language.block.Admits lines) :
    (readableFrom number (language.block.opening ::
        (lines.map (BlockDelimiters.decorate decoration) ++
          [' ' :: language.block.closing]))).foldl (step language) ⟨.outside, found⟩ =
      ⟨.outside, .comment (.written ([] :: (lines ++ [[]])) number
        (number + 1 + lines.length)) :: found⟩ := by
  have hopening := hseparable.opening.trim_eq
  have hclosing := Text.trim_cons_space hseparable.closing.trim_eq
  have hstart : ¬language.start <+: language.block.opening ++ [] := by
    rw [List.append_nil]
    exact hseparable.start_opening
  have hunclosed : ¬language.block.closing <:+: [] := by
    rw [List.infix_nil]
    exact hseparable.closing.1
  apply foldl_step_block
  · rw [hopening]
    exact hseparable.opening.1
  · have hfeed :
        feed language.delimiters .outside ⟨number, language.block.opening ++ []⟩ = _ :=
      feed_opening hstart hunclosed
    rwa [List.append_nil, ← hopening] at hfeed
  · intro line hline
    exact hseparable.heldAs_decorate hinterior h hline
  · rw [hclosing]
    exact hseparable.closing.1
  · intro state number hin
    have hfeed : feed language.delimiters state ⟨number, [] ++ language.block.closing⟩ = _ :=
      feed_closing hin []
    rw [hclosing]
    rw [List.nil_append] at hfeed
    rw [hfeed]
    exact congrArg (fun text => (BlockState.outside, (state.hold number text).comment?))
      hseparable.undecorate_nil

end Separable

end Delimited

end LicenseText
