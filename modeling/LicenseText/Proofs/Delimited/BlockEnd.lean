import LicenseText.Proofs.Delimited.Completed
import LicenseText.Proofs.Delimited.WrittenBlock

/-!
# Where a block comment ends

Behind the opening token of a block comment stands, on its line or on a later one, the
first closing token. When the comment is written on one line, or nothing follows the
token, it ends there. A line inside a block closes it only at the line's end, so a token
that is followed by code leaves the block open.
-/

namespace LicenseText

namespace Delimited

open BlockState Text

def cLanguage : CommentLanguage := ⟨"//".toList, ⟨"/*".toList, none, "*/".toList⟩, ['"']⟩

theorem not_start_cLanguage (rest : Text) :
    ¬cLanguage.start <+: cLanguage.block.opening ++ rest := by
  simp [cLanguage]

theorem isToken_closing : IsToken "*/".toList :=
  (@separable_of_mem cLanguage List.mem_cons_self).closing

/-! ## The closing token at the end of a line -/

section LineEnd

variable {front after inside : Text}

/-- What stands in front of a closing token at a line's end is free of the token exactly
when that token is the first. -/
theorem after_eq_nil_iff (h : FirstOccurrence "*/".toList front after (inside ++ "*/".toList)) :
    after = [] ↔ ¬"*/".toList <:+: inside := by
  have heq := h.eq_append
  constructor
  · rintro rfl
    rw [List.append_nil] at heq
    rw [List.append_cancel_right heq]
    exact h.not_infix_front isToken_closing.1
  · intro hinside
    apply Decidable.byContradiction
    intro hafter
    apply hinside
    -- a second token cannot start with the end of the first one
    have hlength : 2 ≤ after.length := by
      rcases after with _ | ⟨x, _ | ⟨y, rest⟩⟩
      · exact absurd rfl hafter
      · have hlast := congrArg List.reverse heq
        simp at hlast
      · simp
    have hprefix : front ++ "*/".toList <+: inside := by
      have hleft : front ++ "*/".toList <+: inside ++ "*/".toList :=
        ⟨after, by rw [List.append_assoc, ← heq]⟩
      apply List.prefix_of_prefix_length_le hleft (List.prefix_append _ _)
      have hsizes := congrArg List.length heq
      simp only [List.length_append, String.length_toList] at hsizes ⊢
      have htoken : "*/".length = 2 := by decide
      omega
    exact (List.suffix_append front _).isInfix.trans hprefix.isInfix

theorem inside_eq_front (h : FirstOccurrence "*/".toList front [] (inside ++ "*/".toList)) :
    inside = front := by
  have heq := h.eq_append
  rw [List.append_nil] at heq
  exact List.append_cancel_right heq

theorem suffix_of_after_eq_nil {t : Text} (h : FirstOccurrence "*/".toList front [] t) :
    "*/".toList <:+ t :=
  ⟨front, by rw [h.eq_append, List.append_nil]⟩

end LineEnd

/-! ## On the line of the opening token -/

section OneLine

variable {tail : Text}

theorem closedIn?_append (block : BlockDelimiters) (inside : Text) :
    block.closedIn? (inside ++ block.closing) = some inside := by
  rw [BlockDelimiters.closedIn?, isSuffixOf?_append]

theorem closedIn?_of_firstOccurrence {front after : Text} (hsuffix : ¬"*/".toList <:+ tail)
    (h : FirstOccurrence "*/".toList front after tail) :
    cLanguage.block.closedIn? tail = some front := by
  have hnone : cLanguage.block.closing.isSuffixOf? tail = none := isSuffixOf?_eq_none hsuffix
  rw [BlockDelimiters.closedIn?, hnone]
  exact h.before?_eq_some isToken_closing.1

theorem feed_closed {inside : Text} {number : Nat}
    (h : cLanguage.block.closedIn? tail = some inside) :
    feed .cLike .outside ⟨number, "/*".toList ++ tail⟩ =
      (.outside, some (.onLine inside.trim number)) := by
  have hfeed := @feed_outside cLanguage (cLanguage.block.opening ++ tail) number
    (not_start_cLanguage tail)
  rw [feedOutside, isPrefixOf?_append] at hfeed
  dsimp only at hfeed
  rwa [h] at hfeed

end OneLine

/-! ## Inside a block -/

/-- A block that was opened on the given line and in which no closing token has been
met. -/
structure OpenBlock (number : Nat) (state : BlockState) : Prop where
  inBlock : state.inBlock = true
  openingLine : ∀ next, state.openingLine next = number
  unclosed : ∀ line ∈ state.held, ¬"*/".toList <:+: line.text

namespace OpenBlock

variable {number : Nat} {state : BlockState} {line : NumberedLine}

/-- A line opens a block when the token does not close it again. -/
theorem start (number : Nat) {tail : Text} (htail : ¬"*/".toList <:+: tail) :
    (feed .cLike .outside ⟨number, "/*".toList ++ tail⟩).2 = none ∧
      OpenBlock number (feed .cLike .outside ⟨number, "/*".toList ++ tail⟩).1 := by
  have hfeed : feed .cLike .outside ⟨number, "/*".toList ++ tail⟩ =
      (BlockState.hold .outside number tail.trim, none) :=
    feed_opening (not_start_cLanguage tail) htail
  rw [hfeed]
  refine ⟨rfl, rfl, fun _ => rfl, ?_⟩
  intro line hline
  obtain rfl := List.mem_singleton.mp hline
  rwa [infix_trim_iff isToken_closing.1 isToken_closing.2]

theorem hold (h : OpenBlock number state) {later : Nat} {text : Text}
    (htext : ¬"*/".toList <:+: text) : OpenBlock number (state.hold later text) where
  inBlock := rfl
  openingLine := by
    intro next
    rw [openingLine_hold, h.openingLine]
  unclosed := by
    intro line hline
    rcases List.mem_cons.mp hline with rfl | hline
    · exact htext
    · exact h.unclosed line hline

/-- A line that does not end with the token is passed over or held back. -/
theorem feed_cases (h : OpenBlock number state) (hline : ¬"*/".toList <:+ line.text) :
    feed .cLike state line = (state, none) ∨
      feed .cLike state line = (state.hold line.number line.text, none) := by
  by_cases hopening : "/*".toList <+: line.text
  · left
    rw [feed, if_pos h.inBlock]
    dsimp only [DelimitedSyntax.cLike]
    rw [feedInside, isSuffixOf?_eq_none hline, if_pos]
    rwa [List.isPrefixOf_iff_prefix]
  · right
    have hfeed : BlockState.feed .cLike state line =
        (state.hold line.number (cLanguage.block.undecorate line.text), none) :=
      @feed_inside cLanguage state line.text line.number h.inBlock hopening hline
    rwa [Separable.undecorate_of_plain rfl] at hfeed

/-- A line without the token leaves the block open. -/
theorem feed (h : OpenBlock number state) (hline : ¬"*/".toList <:+: line.text) :
    (feed .cLike state line).2 = none ∧ OpenBlock number (feed .cLike state line).1 := by
  rcases h.feed_cases (fun hsuffix => hline hsuffix.isInfix) with heq | heq
  · rw [heq]
    exact ⟨rfl, h⟩
  · rw [heq]
    exact ⟨rfl, h.hold hline⟩

/-- Lines without the token leave the block open and complete no comment. -/
theorem stateAfter (h : OpenBlock number state) {lines : List NumberedLine}
    (hlines : ∀ line ∈ lines, ¬"*/".toList <:+: line.text) :
    completed .cLike state lines = [] ∧ OpenBlock number (stateAfter .cLike state lines) := by
  induction lines generalizing state with
  | nil => exact ⟨rfl, h⟩
  | cons line rest ih =>
      obtain ⟨hnone, hopen⟩ := h.feed (hlines line List.mem_cons_self)
      obtain ⟨hcompleted, hafter⟩ :=
        ih hopen (fun later hlater => hlines later (List.mem_cons_of_mem _ hlater))
      refine ⟨?_, hafter⟩
      rw [completed, hnone, hcompleted]
      rfl

/-- A token at the end of a line closes the block. -/
theorem feed_closing (h : OpenBlock number state) (later : Nat) (inside : Text) :
    ∃ held, (∀ line ∈ held, ¬"*/".toList <:+: line) ∧
      BlockState.feed .cLike state ⟨later, inside ++ "*/".toList⟩ =
        (.outside, some (.written (held ++ [inside.trim]) number later)) := by
  refine ⟨state.held.reverse.map NumberedLine.text, ?_, ?_⟩
  · intro text htext
    obtain ⟨line, hline, rfl⟩ := List.mem_map.mp htext
    exact h.unclosed line (List.mem_reverse.mp hline)
  · have hfeed : BlockState.feed .cLike state ⟨later, inside ++ "*/".toList⟩ =
        (.outside,
          (state.hold later (cLanguage.block.undecorate inside.trim)).comment?) :=
      @Delimited.feed_closing cLanguage state later h.inBlock inside
    rw [hfeed, Separable.undecorate_of_plain rfl, comment?_hold, h.openingLine]
    simp [BlockState.hold]

end OpenBlock

/-! ## The first closing token of a block -/

/-- A block comment of a document up to its first closing token. Its lines without the
opening token are the lines `passed`, in which the token does not occur, and the line
`closing`, on which `front` stands in front of the token and `after` behind it. -/
structure CommentSpan (content : Text) where
  before : List NumberedLine
  number : Nat
  tail : Text
  rest : List NumberedLine
  behind : List NumberedLine
  passed : List NumberedLine
  closing : NumberedLine
  front : Text
  after : Text
  lines_eq : readableLines content =
    before ++ ((⟨number, "/*".toList ++ tail⟩ :: rest) ++ behind)
  outside : stateAfter .cLike .outside before = .outside
  pieces_eq : ⟨number, tail⟩ :: rest = passed ++ [closing]
  unclosed : ∀ piece ∈ passed, ¬"*/".toList <:+: piece.text
  first : FirstOccurrence "*/".toList front after closing.text

/-- A block that is opened and in which the token occurs has a first token. -/
theorem exists_commentSpan {content : Text} {before rest : List NumberedLine} {number : Nat}
    {tail : Text} (hlines : readableLines content =
      before ++ ⟨number, "/*".toList ++ tail⟩ :: rest)
    (houtside : stateAfter .cLike .outside before = .outside)
    (htoken : ∃ piece ∈ ⟨number, tail⟩ :: rest, "*/".toList <:+: piece.text) :
    ∃ span : CommentSpan content,
      span.before = before ∧ span.number = number ∧ span.tail = tail := by
  obtain ⟨piece, hmem, hpiece⟩ := htoken
  have hfound : ((⟨number, tail⟩ :: rest).find?
      fun piece : NumberedLine => contains "*/".toList piece.text).isSome :=
    List.find?_isSome.mpr ⟨piece, hmem, (contains_iff_isInfix _ _).mpr hpiece⟩
  obtain ⟨closing, hfind⟩ := Option.isSome_iff_exists.mp hfound
  obtain ⟨hclosing, passed, behind, hpieces, hpassed⟩ :=
    List.find?_eq_some_iff_append.mp hfind
  obtain ⟨front, after, hfirst⟩ :=
    exists_firstOccurrence isToken_closing.1 ((contains_iff_isInfix _ _).mp hclosing)
  obtain ⟨first, inner, hinner⟩ := List.exists_cons_of_ne_nil
    (List.append_ne_nil_of_right_ne_nil passed (List.cons_ne_nil closing []))
  have hsplit : ⟨number, tail⟩ :: rest = first :: (inner ++ behind) := by
    rw [hpieces, ← List.cons_append, ← hinner, List.append_assoc, List.singleton_append]
  obtain ⟨rfl, rfl⟩ := List.cons.inj hsplit
  refine ⟨⟨before, number, tail, inner, behind, passed, closing, front, after, hlines, houtside,
    hinner.symm, ?_, hfirst⟩, rfl, rfl, rfl⟩
  intro piece hpiece hinfix
  have hnot := hpassed piece hpiece
  rw [(contains_iff_isInfix _ _).mpr hinfix] at hnot
  contradiction

namespace CommentSpan

variable {content : Text} (span : CommentSpan content)

def block : List NumberedLine := ⟨span.number, "/*".toList ++ span.tail⟩ :: span.rest

/-- The comment stands on the lines of the block, its text ends in front of the token, and
the token occurs in none of its lines. -/
structure EndsAtToken (c : Comment) : Prop where
  startLine : c.startLine = span.number
  endLine : c.endLine = span.closing.number
  lastLine : c.body.getLast? = some span.front.trim
  closed : ∀ line ∈ c.body, ¬"*/".toList <:+: line

/-- The block is a comment that ends at the token, no other comment takes part in its lines,
and the lines behind it are read as if they started the document. -/
def ClosesAtToken (withStrings : Bool) (policy : OpenBlockPolicy) : Prop :=
  stateAfter .cLike .outside (span.before ++ span.block) = .outside ∧
    ∃ c, span.EndsAtToken c ∧ commentsOf (read .cLike withStrings policy content) =
      completed .cLike .outside span.before ++ c :: commentsIn .cLike policy span.behind

variable {span} {c : Comment} {withStrings : Bool} {policy : OpenBlockPolicy}

theorem stateAfter_before_block :
    stateAfter .cLike .outside (span.before ++ span.block) =
      stateAfter .cLike .outside span.block := by
  rw [stateAfter_append, span.outside]

/-- When the block completes one comment, that comment decides. -/
theorem closesAtToken_iff_of_completed
    (hstate : stateAfter .cLike .outside span.block = .outside)
    (hcompleted : completed .cLike .outside span.block = [c]) :
    span.ClosesAtToken withStrings policy ↔ span.EndsAtToken c := by
  have hread : commentsOf (read .cLike withStrings policy content) =
      completed .cLike .outside span.before ++ c :: commentsIn .cLike policy span.behind := by
    rw [commentsOf_read, span.lines_eq, commentsIn_append span.outside, ← block,
      commentsIn_append hstate, hcompleted, List.singleton_append]
  rw [ClosesAtToken, stateAfter_before_block]
  constructor
  · rintro ⟨-, c', hends, hread'⟩
    have hrest := List.append_cancel_left (hread.symm.trans hread')
    rwa [(List.cons.inj hrest).1]
  · intro hends
    exact ⟨hstate, c, hends, hread⟩

/-- A token at the end of a line closes the block where it should when it is the first. -/
theorem endsAtToken_written_iff {held : List Text} {inside : Text}
    (hheld : ∀ line ∈ held, ¬"*/".toList <:+: line)
    (hclosing : span.closing.text = inside ++ "*/".toList) :
    span.EndsAtToken (.written (held ++ [inside.trim]) span.number span.closing.number) ↔
      span.after = [] := by
  have hfirst := span.first
  rw [hclosing] at hfirst
  rw [after_eq_nil_iff hfirst]
  constructor
  · intro hends
    have hlast := hends.closed inside.trim (by simp [Comment.written])
    rwa [infix_trim_iff isToken_closing.1 isToken_closing.2] at hlast
  · intro hinside
    refine ⟨rfl, rfl, ?_, ?_⟩
    · have hafter := (after_eq_nil_iff hfirst).mpr hinside
      rw [hafter] at hfirst
      rw [← inside_eq_front hfirst]
      exact List.getLast?_concat
    · intro line hline
      rcases List.mem_append.mp hline with hline | hline
      · exact hheld line hline
      · rw [List.mem_singleton.mp hline, infix_trim_iff isToken_closing.1 isToken_closing.2]
        exact hinside

/-- A token on the line of the opening token ends the comment, unless that line ends with
another one. -/
theorem closesAtToken_iff_of_oneLine (hpassed : span.passed = []) :
    span.ClosesAtToken withStrings policy ↔
      span.after = [] ∨ ¬"*/".toList <:+ span.tail := by
  have hpieces := span.pieces_eq
  rw [hpassed, List.nil_append] at hpieces
  obtain ⟨hclosing, hrest⟩ := List.cons.inj hpieces
  have hnumber : span.closing.number = span.number := by rw [← hclosing]
  have htail : span.closing.text = span.tail := by rw [← hclosing]
  have hcompleted {inside : Text} (hclosed : cLanguage.block.closedIn? span.tail = some inside) :
      span.ClosesAtToken withStrings policy ↔
        span.EndsAtToken (.written ([] ++ [inside.trim]) span.number span.closing.number) := by
    apply closesAtToken_iff_of_completed
    · rw [block, hrest, stateAfter, feed_closed hclosed, stateAfter]
    · rw [block, hrest, completed, feed_closed hclosed, completed, hnumber]
      rfl
  by_cases hsuffix : "*/".toList <:+ span.tail
  · obtain ⟨inside, hinside⟩ := hsuffix
    have hclosed : cLanguage.block.closedIn? span.tail = some inside := by
      rw [← hinside]
      exact closedIn?_append _ inside
    rw [hcompleted hclosed,
      endsAtToken_written_iff (by simp) (htail.trans hinside.symm), or_iff_left]
    exact not_not_intro ⟨inside, hinside⟩
  · have hfirst := span.first
    rw [htail] at hfirst
    rw [hcompleted (closedIn?_of_firstOccurrence hsuffix hfirst)]
    refine ⟨fun _ => .inr hsuffix, fun _ => ⟨rfl, rfl, rfl, ?_⟩⟩
    intro line hline
    rw [List.mem_singleton.mp hline, infix_trim_iff isToken_closing.1 isToken_closing.2]
    exact hfirst.not_infix_front isToken_closing.1

/-! ### On a later line -/

/-- The line with the token is read inside the block, before which no comment is completed. -/
theorem exists_openBlock (span : CommentSpan content) (hpassed : span.passed ≠ []) :
    ∃ state, OpenBlock span.number state ∧
      stateAfter .cLike .outside span.block = (feed .cLike state span.closing).1 ∧
      completed .cLike .outside span.block = (feed .cLike state span.closing).2.toList := by
  obtain ⟨opener, middle, hmiddle⟩ := List.exists_cons_of_ne_nil hpassed
  have hpieces := span.pieces_eq
  have hunclosed := span.unclosed
  rw [hmiddle] at hunclosed
  rw [hmiddle, List.cons_append] at hpieces
  obtain ⟨rfl, hrest⟩ := List.cons.inj hpieces
  have hinner : ∀ line ∈ middle, ¬"*/".toList <:+: line.text := fun line hline =>
    hunclosed line (List.mem_cons_of_mem _ hline)
  obtain ⟨hopener, hstart⟩ := OpenBlock.start span.number (hunclosed _ List.mem_cons_self)
  obtain ⟨hcompleted, hopen⟩ := hstart.stateAfter hinner
  refine ⟨_, hopen, ?_, ?_⟩
  · rw [block, hrest, stateAfter, stateAfter_append]
    rfl
  · rw [block, hrest, completed, hopener, completed_append, hcompleted, completed, completed,
      List.append_nil]
    rfl

/-- A token on a later line ends the comment exactly when nothing follows it. -/
theorem closesAtToken_iff_of_later (hpassed : span.passed ≠ []) :
    span.ClosesAtToken withStrings policy ↔ span.after = [] := by
  obtain ⟨state, hopen, hstate, hcompleted⟩ := span.exists_openBlock hpassed
  by_cases hsuffix : "*/".toList <:+ span.closing.text
  · obtain ⟨inside, hinside⟩ := hsuffix
    obtain ⟨held, hheld, hfeed⟩ := hopen.feed_closing span.closing.number inside
    rw [hinside] at hfeed
    rw [hfeed] at hstate hcompleted
    rw [closesAtToken_iff_of_completed hstate hcompleted]
    exact endsAtToken_written_iff hheld hinside.symm
  · constructor
    · rintro ⟨houtside, -⟩
      rw [stateAfter_before_block, hstate] at houtside
      have hin : (feed .cLike state span.closing).1.inBlock = true := by
        rcases hopen.feed_cases hsuffix with heq | heq
        · rw [heq]
          exact hopen.inBlock
        · rw [heq]
          rfl
      rw [houtside] at hin
      contradiction
    · intro hafter
      have hfirst := span.first
      rw [hafter] at hfirst
      exact absurd (suffix_of_after_eq_nil hfirst) hsuffix

/-- The comment ends at its first closing token exactly when nothing follows the token or it
stands on the line of the opening token and that line does not end with another one. -/
theorem closesAtToken_iff :
    span.ClosesAtToken withStrings policy ↔
      span.after = [] ∨ span.passed = [] ∧ ¬"*/".toList <:+ span.tail := by
  by_cases hpassed : span.passed = []
  · rw [closesAtToken_iff_of_oneLine hpassed, and_iff_right hpassed]
  · rw [closesAtToken_iff_of_later hpassed, or_iff_left]
    exact fun h => hpassed h.1

end CommentSpan

/-- A block comment in whose lines the closing token occurs ends at the first such token
exactly when nothing follows it, or when it stands on the line of the opening token and that
line does not end with another one. -/
theorem blockComment_closes_iff {content : Text} {before rest : List NumberedLine}
    {number : Nat} {tail : Text}
    (hlines : readableLines content = before ++ ⟨number, "/*".toList ++ tail⟩ :: rest)
    (houtside : stateAfter .cLike .outside before = .outside)
    (htoken : ∃ piece ∈ ⟨number, tail⟩ :: rest, "*/".toList <:+: piece.text)
    (withStrings : Bool) (policy : OpenBlockPolicy) :
    ∃ span : CommentSpan content,
      (span.before = before ∧ span.number = number ∧ span.tail = tail) ∧
      (span.ClosesAtToken withStrings policy ↔
        span.after = [] ∨ span.passed = [] ∧ ¬"*/".toList <:+ span.tail) := by
  obtain ⟨span, hspan⟩ := exists_commentSpan hlines houtside htoken
  exact ⟨span, hspan, span.closesAtToken_iff⟩

theorem blockComment_closes_iff_of_code :
    ∃ span : CommentSpan "f(); // g\n/* a\n * b */\n".toList,
      (span.before = [⟨1, "f(); // g".toList⟩] ∧ span.number = 2 ∧ span.tail = " a".toList) ∧
      (span.ClosesAtToken true .discard ↔
        span.after = [] ∨ span.passed = [] ∧ ¬"*/".toList <:+ span.tail) :=
  @blockComment_closes_iff _ [⟨1, "f(); // g".toList⟩] [⟨3, "* b */".toList⟩] 2 " a".toList
    (by decide) (by decide) ⟨⟨3, "* b */".toList⟩, by decide, by decide⟩ true .discard

/-- Code behind the closing token on a later line leaves the block open: the code up to the
next line that ends with the token becomes a part of the comment. -/
theorem not_closesAtToken_of_code :
    commentsOf (read .cLike false .emit "/* a\nb */ int x;\nint y;\n".toList) =
        [.written ["a".toList, "b */ int x;".toList, "int y;".toList] 1 3] ∧
      ∃ span : CommentSpan "/* a\nb */ int x;\nint y;\n".toList,
        ¬span.ClosesAtToken false .emit := by
  refine ⟨by decide, ⟨[], 1, " a".toList, [⟨2, "b */ int x;".toList⟩], [⟨3, "int y;".toList⟩],
    [⟨1, " a".toList⟩], ⟨2, "b */ int x;".toList⟩, "b ".toList, " int x;".toList, by decide,
    rfl, rfl, by decide, ⟨by decide, by decide⟩⟩, ?_⟩
  rintro ⟨houtside, -⟩
  revert houtside
  decide

end Delimited

end LicenseText
