import LicenseText.Proofs.Delimited.LineAccount

/-!
# The open block

A block is open exactly when lines are held back, whatever the delimiters are and whatever
has been read. So every way in which a line can be read is one of those that `Reads` lists:
none of them forgets a line that is held back, and none leaves a block without closing it.
What the end of the document adds, when the open block is emitted, is therefore one comment
or nothing.
-/

namespace LicenseText

namespace BlockState

variable {delimiters : DelimitedSyntax} {state : BlockState} {line : NumberedLine}

/-- Reading a line in a state that can be reached, with the state behind the line and the
comment that it completes. -/
inductive Reads (delimiters : DelimitedSyntax) (line : NumberedLine) :
    BlockState → BlockState → Option Comment → Prop
  /-- Outside a block the line is no comment. -/
  | code (hline : ¬Contributes delimiters outside line.text) :
      Reads delimiters line outside outside none
  /-- Outside a block the line is a comment of its own. -/
  | single {text : Text} (htext : text <:+: line.text) :
      Reads delimiters line outside outside (some (.onLine text line.number))
  /-- The line opens a block or goes on with it, and is held back behind the other lines. -/
  | held {state : BlockState} {text : Text} (htext : text <:+: line.text) :
      Reads delimiters line state (state.hold line.number text) none
  /-- Inside a block the line starts with the opening delimiter again. -/
  | reopened {state : BlockState} {block : BlockDelimiters}
      (hblock : block ∈ delimiters.block) (hin : state.inBlock = true)
      (hopening : block.opening <+: line.text) (hclosing : ¬block.closing <:+ line.text) :
      Reads delimiters line state state none
  /-- Inside a block the line closes it, and the comment has all lines held back. -/
  | closed {state : BlockState} {first : NumberedLine} {text : Text}
      (hin : state.inBlock = true) (hfirst : state.held.getLast? = some first)
      (htext : text <:+: line.text) :
      Reads delimiters line state outside
        (some (.written (state.held.reverse.map NumberedLine.text ++ [text])
          first.number line.number))

namespace Sound

variable {next : Nat}

theorem exists_first (h : Sound delimiters next state) (hin : state.inBlock = true) :
    ∃ first, state.held.getLast? = some first :=
  Option.ne_none_iff_exists'.mp (mt List.getLast?_eq_none_iff.mp (h.inBlock_iff.mp hin))

/-- In a sound state a line is read in one of the ways listed. -/
theorem reads (h : Sound delimiters next state) (line : NumberedLine) :
    Reads delimiters line state (state.feed delimiters line).1
      (state.feed delimiters line).2 := by
  rcases feed_cases delimiters state line with
    ⟨hline, heq⟩ | ⟨-, text, htext, ⟨hin, heq⟩ | ⟨-, heq⟩ | ⟨hin, heq⟩⟩
  · rw [heq]
    cases hin : state.inBlock with
    | true =>
        obtain ⟨block, hblock, hopening, hclosing⟩ :=
          (Delimited.not_contributes_iff h hin line.text).mp hline
        exact .reopened hblock hin hopening hclosing
    | false =>
        obtain rfl := h.eq_outside hin
        exact .code hline
  · obtain rfl := h.eq_outside hin
    rw [heq]
    exact .single htext
  · rw [heq]
    exact .held htext
  · obtain ⟨first, hfirst⟩ := h.exists_first hin
    have hopening : state.openingLine line.number = first.number := by
      rw [openingLine, hfirst]
      rfl
    have hheld : (state.hold line.number text).held.reverse.map NumberedLine.text =
        state.held.reverse.map NumberedLine.text ++ [text] := by
      rw [BlockState.hold, List.reverse_cons, List.map_append]
      rfl
    rw [heq, comment?_hold, hopening, hheld]
    exact .closed hin hfirst htext

/-- An open block that is emitted has all lines held back. -/
theorem exists_finish?_emit (h : Sound delimiters next state) (hin : state.inBlock = true) :
    ∃ first last, state.held.getLast? = some first ∧ state.held.head? = some last ∧
      state.finish? .emit =
        some (.written (state.held.reverse.map NumberedLine.text) first.number last.number) := by
  obtain ⟨first, hfirst⟩ := h.exists_first hin
  obtain ⟨last, hlast⟩ :=
    Option.ne_none_iff_exists'.mp (mt List.head?_eq_none_iff.mp (h.inBlock_iff.mp hin))
  refine ⟨first, last, hfirst, hlast, ?_⟩
  rw [finish?, if_pos hin, comment?, hfirst, hlast]

end Sound

end BlockState

namespace Delimited

/-- Behind any lines with increasing numbers a block is open exactly when lines are held
back, the language then has block comments, the lines held back have increasing numbers, and
the next line is read in one of the ways that `Reads` lists. A document whose end is inside
a block has one more comment when the open block is emitted than when it is dropped, made of
all lines held back, and any other document has the same items under both policies. -/
theorem openBlock_invariant (delimiters : DelimitedSyntax) :
    (∀ lines : List NumberedLine,
      (lines.Pairwise fun line later => line.number < later.number) →
        let state := stateAfter delimiters .outside lines
        (state.inBlock = true ↔ state.held ≠ []) ∧
          (state.inBlock = true → ∃ block, delimiters.block = some block) ∧
          (state.held.reverse.Pairwise fun line later => line.number < later.number) ∧
          ∀ line, BlockState.Reads delimiters line state (state.feed delimiters line).1
            (state.feed delimiters line).2) ∧
      ∀ (withStrings : Bool) (content : Text),
        let state := stateAfter delimiters .outside (readableLines content)
        (state.inBlock = true →
          ∃ first last, state.held.getLast? = some first ∧ state.held.head? = some last ∧
            read delimiters withStrings .emit content =
              read delimiters withStrings .discard content ++
                [.comment (.written (state.held.reverse.map NumberedLine.text)
                  first.number last.number)]) ∧
          (state.inBlock = false →
            read delimiters withStrings .emit content =
              read delimiters withStrings .discard content) := by
  constructor
  · intro lines hlines state
    obtain ⟨next, hsound⟩ := sound_stateAfter (BlockState.Sound.outside delimiters 0) hlines
      fun line _ => Nat.zero_le _
    exact ⟨hsound.inBlock_iff, fun hin => Option.isSome_iff_exists.mp (hsound.isSome_block hin),
      List.pairwise_reverse.mpr hsound.increasing, hsound.reads⟩
  · intro withStrings content state
    obtain ⟨next, hsound⟩ : ∃ next, state.Sound delimiters next :=
      exists_sound_of_append (List.append_nil (readableLines content)).symm
    rw [read_eq_foundAlong withStrings (.inl rfl)]
    constructor
    · intro hin
      obtain ⟨first, last, hfirst, hlast, hfinish⟩ := hsound.exists_finish?_emit hin
      refine ⟨first, last, hfirst, hlast, ?_⟩
      rw [read_eq, hfinish]
      rfl
    · intro hin
      exact read_eq_foundAlong withStrings (.inr hin)

theorem openBlock_invariant_of_comment :
    ((readableLines "/* a\n\nb".toList).Pairwise fun line later => line.number < later.number) ∧
      (stateAfter .cLike .outside (readableLines "/* a\n\nb".toList)).inBlock = true ∧
      (stateAfter .cLike .outside (readableLines "/* a\n\nb".toList)).held ≠ [] ∧
      read .cLike true .emit "/* a\n\nb".toList =
        read .cLike true .discard "/* a\n\nb".toList ++
          [.comment (.written ["a".toList, "b".toList] 1 3)] ∧
      (stateAfter .cLike .outside (readableLines "/* a */".toList)).inBlock = false ∧
      read .cLike true .emit "/* a */".toList =
        read .cLike true .discard "/* a */".toList := by
  have hlines : (readableLines "/* a\n\nb".toList).Pairwise
      fun line later => line.number < later.number := by decide
  have hstate : stateAfter .cLike .outside (readableLines "/* a\n\nb".toList) =
      ⟨true, [⟨3, "b".toList⟩, ⟨1, "a".toList⟩]⟩ := by decide
  have hclosed : (stateAfter .cLike .outside (readableLines "/* a */".toList)).inBlock = false := by
    decide
  obtain ⟨hinvariant, hend⟩ := openBlock_invariant .cLike
  have hin := congrArg BlockState.inBlock hstate
  obtain ⟨first, last, hfirst, hlast, hemit⟩ := (hend true "/* a\n\nb".toList).1 hin
  rw [hstate] at hfirst hlast hemit
  obtain rfl := Option.some.inj hfirst
  obtain rfl := Option.some.inj hlast
  exact ⟨hlines, hin, (hinvariant _ hlines).1.mp hin, hemit, hclosed, (hend true _).2 hclosed⟩

end Delimited

end LicenseText
