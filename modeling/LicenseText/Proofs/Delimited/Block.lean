import LicenseText.Delimited.Block
import LicenseText.Proofs.Text.Trim

/-!
# What a line does to a block

A line contributes to a comment or is passed over (`Contributes`). `feed_cases` lists what
reading a line can do to the open block, and `Sound` is what every line keeps: a block is
open exactly when lines are held back, only a language with block comments opens one, and
the lines held back have increasing numbers.
-/

namespace LicenseText

namespace BlockState

variable {delimiters : DelimitedSyntax} {state : BlockState} {line : NumberedLine}

/-- The line on which the open block starts, or `next` when no block is open. -/
def openingLine (state : BlockState) (next : Nat) : Nat :=
  (state.held.getLast?.map NumberedLine.number).getD next

theorem openingLine_of_held_eq_nil (h : state.held = []) (next : Nat) :
    state.openingLine next = next := by
  simp [openingLine, h]

theorem openingLine_hold (number : Nat) (text : Text) (next : Nat) :
    (state.hold number text).openingLine next = state.openingLine number := by
  cases h : state.held.getLast? <;> simp [openingLine, hold, List.getLast?_cons, h]

theorem comment?_hold (number : Nat) (text : Text) :
    (state.hold number text).comment? =
      some (.written ((state.hold number text).held.reverse.map NumberedLine.text)
        (state.openingLine number) number) := by
  cases h : state.held.getLast? <;>
    simp [comment?, openingLine, hold, List.getLast?_cons, h]

theorem finish?_eq_none {policy : OpenBlockPolicy}
    (h : policy = .discard ∨ state.inBlock = false) : state.finish? policy = none := by
  cases policy with
  | discard => rfl
  | emit =>
      have hin : state.inBlock = false := h.resolve_left (by simp)
      rw [finish?, hin]
      rfl

/-- A line is a part of a comment: outside a block when it starts with the line prefix or
with the opening delimiter, inside a block when it ends with the closing delimiter or does
not start with the opening one. -/
def Contributes (delimiters : DelimitedSyntax) (state : BlockState) (text : Text) : Prop :=
  if state.inBlock then
    ∃ block ∈ delimiters.block, block.closing <:+ text ∨ ¬block.opening <+: text
  else
    (∃ start ∈ delimiters.line, start <+: text) ∨
      ∃ block ∈ delimiters.block, block.opening <+: text

theorem contributes_of_inBlock (hin : state.inBlock = true) (text : Text) :
    Contributes delimiters state text ↔
      ∃ block ∈ delimiters.block, block.closing <:+ text ∨ ¬block.opening <+: text := by
  rw [Contributes, if_pos hin]

theorem contributes_of_outside (hin : state.inBlock = false) (text : Text) :
    Contributes delimiters state text ↔
      (∃ start ∈ delimiters.line, start <+: text) ∨
        ∃ block ∈ delimiters.block, block.opening <+: text := by
  rw [Contributes, if_neg (Bool.eq_false_iff.mp hin)]

theorem isInfix_undecorate (block : BlockDelimiters) (text : Text) :
    block.undecorate text <:+: text := by
  rw [BlockDelimiters.undecorate]
  split
  case h_1 rest hrest =>
    obtain ⟨decoration, -, hrest⟩ := Option.bind_eq_some_iff.mp hrest
    have hsuffix : rest <:+ text := ⟨decoration, List.append_eq_of_isPrefixOf?_eq_some hrest⟩
    exact (Text.isInfix_trim rest).trans hsuffix.isInfix
  case h_2 => exact List.infix_refl text

theorem isPrefix_of_closedIn? {block : BlockDelimiters} {rest inside : Text}
    (h : block.closedIn? rest = some inside) : inside <+: rest := by
  rw [BlockDelimiters.closedIn?] at h
  split at h
  case h_1 front hfront =>
    obtain rfl := Option.some.inj h
    exact ⟨block.closing, List.append_eq_of_isSuffixOf?_eq_some hfront⟩
  case h_2 => exact Text.isPrefix_of_before? h

/-- A line inside a block closes it, is passed over, or is held back. -/
theorem feedInside_cases (state : BlockState) (block : BlockDelimiters)
    (line : NumberedLine) :
    (block.opening <+: line.text ∧ ¬block.closing <:+ line.text ∧
      state.feedInside block line = (state, none)) ∨
    ((block.closing <:+ line.text ∨ ¬block.opening <+: line.text) ∧
      ∃ text, text <:+: line.text ∧
        (state.feedInside block line = (state.hold line.number text, none) ∨
          state.feedInside block line =
            (outside, (state.hold line.number text).comment?))) := by
  rw [feedInside]
  split
  case h_1 rest hrest =>
    have hclosing := List.append_eq_of_isSuffixOf?_eq_some hrest
    have hinfix : block.undecorate (Text.trim rest) <:+: line.text := by
      have hfront : rest <:+: line.text := ⟨[], block.closing, hclosing⟩
      exact (isInfix_undecorate block _).trans ((Text.isInfix_trim rest).trans hfront)
    exact .inr ⟨.inl ⟨rest, hclosing⟩, _, hinfix, .inr rfl⟩
  case h_2 hnone =>
    have hclosing : ¬block.closing <:+ line.text := by
      rintro ⟨front, hfront⟩
      rw [← hfront, Text.isSuffixOf?_append] at hnone
      contradiction
    split
    case isTrue hopening =>
      exact .inl ⟨List.isPrefixOf_iff_prefix.mp hopening, hclosing, rfl⟩
    case isFalse hopening =>
      rw [List.isPrefixOf_iff_prefix] at hopening
      exact .inr ⟨.inr hopening, _, isInfix_undecorate block line.text, .inl rfl⟩

/-- A line outside a block opens one, is a comment of its own, or is no comment. -/
theorem feedOutside_cases (state : BlockState) (block : BlockDelimiters)
    (line : NumberedLine) :
    (¬block.opening <+: line.text ∧ state.feedOutside block line = (state, none)) ∨
    (block.opening <+: line.text ∧
      ∃ text, text <:+: line.text ∧
        (state.feedOutside block line = (state, some (.onLine text line.number)) ∨
          state.feedOutside block line = (state.hold line.number text, none))) := by
  rw [feedOutside]
  split
  case h_1 hnone =>
    refine .inl ⟨?_, rfl⟩
    rintro ⟨rest, hrest⟩
    rw [← hrest, Text.isPrefixOf?_append] at hnone
    contradiction
  case h_2 rest hrest =>
    have hopening := List.append_eq_of_isPrefixOf?_eq_some hrest
    have hsuffix : rest <:+: line.text := ⟨block.opening, [], by simpa using hopening⟩
    split
    case h_1 inside hinside =>
      have hinfix : inside.trim <:+: line.text :=
        (Text.isInfix_trim inside).trans ((isPrefix_of_closedIn? hinside).isInfix.trans hsuffix)
      exact .inr ⟨⟨rest, hopening⟩, _, hinfix, .inl rfl⟩
    case h_2 =>
      have hinfix : Text.trim rest <:+: line.text := (Text.isInfix_trim rest).trans hsuffix
      exact .inr ⟨⟨rest, hopening⟩, _, hinfix, .inr rfl⟩

/-- A line that does not contribute leaves the block as it is and completes no comment. Of
one that does, a part is a comment of its own, is held back, or closes the block. -/
theorem feed_cases (delimiters : DelimitedSyntax) (state : BlockState)
    (line : NumberedLine) :
    (¬Contributes delimiters state line.text ∧ feed delimiters state line = (state, none)) ∨
    (Contributes delimiters state line.text ∧ ∃ text, text <:+: line.text ∧
      ((state.inBlock = false ∧
          feed delimiters state line = (state, some (.onLine text line.number))) ∨
        (delimiters.block.isSome ∧
          feed delimiters state line = (state.hold line.number text, none)) ∨
        (state.inBlock = true ∧
          feed delimiters state line =
            (outside, (state.hold line.number text).comment?)))) := by
  rw [feed]
  cases hin : state.inBlock with
  | true =>
      rw [if_pos rfl, contributes_of_inBlock hin]
      cases hblock : delimiters.block with
      | none => exact .inl ⟨by simp, rfl⟩
      | some block =>
          simp only [Option.mem_some_iff, exists_eq_left']
          rcases feedInside_cases state block line with
            ⟨hopening, hclosing, heq⟩ | ⟨hline, text, htext, heq | heq⟩
          · exact .inl ⟨by simp [hopening, hclosing], heq⟩
          · exact .inr ⟨hline, text, htext, .inr (.inl ⟨rfl, heq⟩)⟩
          · exact .inr ⟨hline, text, htext, .inr (.inr ⟨trivial, heq⟩)⟩
  | false =>
      rw [if_neg Bool.false_ne_true, contributes_of_outside hin]
      split
      case h_1 rest hrest =>
        obtain ⟨start, hstart, hrest⟩ := Option.bind_eq_some_iff.mp hrest
        have hline := List.append_eq_of_isPrefixOf?_eq_some hrest
        have hinfix : Text.trim rest <:+: line.text :=
          (Text.isInfix_trim rest).trans ⟨start, [], by simpa using hline⟩
        exact .inr ⟨.inl ⟨start, hstart, rest, hline⟩, _, hinfix, .inl ⟨rfl, rfl⟩⟩
      case h_2 hnone =>
        have hprefix : ¬∃ start ∈ delimiters.line, start <+: line.text := by
          rintro ⟨start, hstart, rest, hline⟩
          rw [hstart, Option.bind_some, ← hline, Text.isPrefixOf?_append] at hnone
          contradiction
        cases hblock : delimiters.block with
        | none =>
            refine .inl ⟨?_, rfl⟩
            rintro (hstart | ⟨block, hmem, -⟩)
            · exact hprefix hstart
            · contradiction
        | some block =>
            simp only [Option.mem_some_iff, exists_eq_left', hprefix, false_or]
            rcases feedOutside_cases state block line with
              ⟨hopening, heq⟩ | ⟨hopening, text, htext, heq | heq⟩
            · exact .inl ⟨hopening, heq⟩
            · exact .inr ⟨hopening, text, htext, .inl ⟨trivial, heq⟩⟩
            · exact .inr ⟨hopening, text, htext, .inr (.inl ⟨rfl, heq⟩)⟩

/-- What holds of a block in front of the line `next`. -/
structure Sound (delimiters : DelimitedSyntax) (next : Nat) (state : BlockState) :
    Prop where
  inBlock_iff : state.inBlock = true ↔ state.held ≠ []
  isSome_block : state.inBlock = true → delimiters.block.isSome
  increasing : state.held.Pairwise fun later earlier => earlier.number < later.number
  lt_next : ∀ earlier ∈ state.held, earlier.number < next

namespace Sound

theorem outside (delimiters : DelimitedSyntax) (next : Nat) :
    Sound delimiters next .outside where
  inBlock_iff := by simp [BlockState.outside]
  isSome_block := by simp [BlockState.outside]
  increasing := .nil
  lt_next := by simp [BlockState.outside]

theorem weaken {next later : Nat} (h : Sound delimiters next state)
    (hlater : next ≤ later) : Sound delimiters later state :=
  { h with lt_next := fun earlier hmem => Nat.lt_of_lt_of_le (h.lt_next earlier hmem) hlater }

theorem hold {next number : Nat} (h : Sound delimiters next state)
    (hblock : delimiters.block.isSome) (hnumber : next ≤ number) (text : Text) :
    Sound delimiters (number + 1) (state.hold number text) where
  inBlock_iff := by simp [BlockState.hold]
  isSome_block := fun _ => hblock
  increasing := by
    refine List.pairwise_cons.mpr ⟨?_, h.increasing⟩
    intro earlier hmem
    exact Nat.lt_of_lt_of_le (h.lt_next earlier hmem) hnumber
  lt_next := by
    intro earlier hmem
    rcases List.mem_cons.mp hmem with rfl | hmem
    · exact Nat.lt_succ_self _
    · exact Nat.lt_succ_of_le
        (Nat.le_trans (Nat.le_of_lt (h.lt_next earlier hmem)) hnumber)

/-- Every line keeps the block sound. -/
theorem feed {next : Nat} (h : Sound delimiters next state)
    (hnumber : next ≤ line.number) :
    Sound delimiters (line.number + 1) (feed delimiters state line).1 := by
  have hkeep := h.weaken (Nat.le_succ_of_le hnumber)
  rcases feed_cases delimiters state line with
    ⟨-, heq⟩ | ⟨-, text, -, ⟨-, heq⟩ | ⟨hblock, heq⟩ | ⟨-, heq⟩⟩
  · rwa [heq]
  · rwa [heq]
  · rw [heq]
    exact h.hold hblock hnumber text
  · rw [heq]
    exact Sound.outside _ _

theorem held_eq_nil {next : Nat} (h : Sound delimiters next state)
    (hin : state.inBlock = false) : state.held = [] := by
  apply Decidable.byContradiction
  intro hheld
  rw [h.inBlock_iff.mpr hheld] at hin
  contradiction

theorem eq_outside {next : Nat} (h : Sound delimiters next state)
    (hin : state.inBlock = false) : state = BlockState.outside := by
  have hheld := h.held_eq_nil hin
  cases state
  simp_all [BlockState.outside]

end Sound

end BlockState

end LicenseText
