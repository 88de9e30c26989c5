import LicenseText.Proofs.Delimited.WrittenBlock

/-!
# Reading back a source text

The comments of a source text that is put together from segments are the comments of its
segments: reading a segment finds its comment and leaves no block open.
-/

namespace LicenseText

namespace Delimited

open BlockState

variable {language : CommentLanguage}

theorem newline_not_mem_token {token : Text} (h : IsToken token) : '\n' ∉ token := by
  intro hmem
  exact absurd (h.2 '\n' hmem) (by decide)

theorem newline_not_mem_writePlain {block : BlockDelimiters} {lines : List Text}
    (hopening : '\n' ∉ block.opening) (hclosing : '\n' ∉ block.closing)
    (hlines : ∀ line ∈ lines, '\n' ∉ line) : ∀ line ∈ block.writePlain lines, '\n' ∉ line := by
  have hlast : ∀ line ∈ lines.modifyLast (· ++ ' ' :: block.closing), '\n' ∉ line := by
    rcases List.eq_nil_or_concat lines with rfl | ⟨front, last, rfl⟩
    · exact hlines
    · rw [List.concat_eq_append] at hlines ⊢
      rw [List.modifyLast_concat]
      intro line hline
      rcases List.mem_append.mp hline with hline | hline
      · exact hlines line (by simp [hline])
      · have := hlines last (by simp)
        rw [List.mem_singleton.mp hline]
        simp [this, hclosing]
  rw [BlockDelimiters.writePlain]
  cases h : lines.modifyLast (· ++ ' ' :: block.closing) with
  | nil => simp
  | cons first rest =>
      rw [h] at hlast
      rw [List.modifyHead_cons]
      intro line hline
      rcases List.mem_cons.mp hline with rfl | hline
      · have := hlast first (by simp)
        simp [this, hopening]
      · exact hlast line (by simp [hline])

/-- A segment stays on its lines. -/
theorem newline_not_mem_write (hseparable : Separable language) {segment : Segment}
    (h : segment.Fits language) : ∀ line ∈ segment.write language, '\n' ∉ line := by
  have hopening := newline_not_mem_token hseparable.opening
  have hclosing := newline_not_mem_token hseparable.closing
  cases segment with
  | line text => simp [Segment.write, newline_not_mem_token hseparable.start, h.2]
  | code raw => simpa [Segment.write] using h.1
  | blank raw => simpa [Segment.write] using h.1
  | block lines =>
      rw [Segment.write, BlockDelimiters.write]
      cases hinterior : language.block.interior with
      | none => exact newline_not_mem_writePlain hopening hclosing h.oneLine
      | some decoration =>
          have hdecoration :=
            newline_not_mem_token (hseparable.decoration decoration hinterior).1
          intro line hline
          rcases List.mem_cons.mp hline with rfl | hline
          · exact hopening
          · rcases List.mem_append.mp hline with hline | hline
            · obtain ⟨inner, hinner, rfl⟩ := List.mem_map.mp hline
              simp [BlockDelimiters.decorate, hdecoration, h.oneLine inner hinner]
            · rw [List.mem_singleton.mp hline]
              simp [hclosing]

/-- Reading a segment finds its comment and leaves no block open. -/
theorem foldl_step_write (hseparable : Separable language) {segment : Segment}
    (h : segment.Fits language) (number : Nat) (found : List Item) :
    (readableFrom number (segment.write language)).foldl (step language) ⟨.outside, found⟩ =
      ⟨.outside,
        ((segment.comment? language number).map Item.comment).toList ++ found⟩ := by
  cases segment with
  | line text =>
      obtain ⟨rest, htrim, hrest, -⟩ := hseparable.start.trim_append_space h.1
      rw [Segment.write, foldl_step_cons (by rw [htrim]; simp [hseparable.start.1]), htrim,
        step_of_feed (feed_line rest number), hrest]
      rfl
  | code raw =>
      obtain ⟨-, hraw, hstart, hopening⟩ := h
      rw [Segment.write, foldl_step_cons hraw, step_of_feed (feed_code hstart hopening)]
      rfl
  | blank raw =>
      rw [Segment.write, readableFrom, if_pos (by simpa using h.2)]
      rfl
  | block lines =>
      rw [Segment.comment?, Segment.write, BlockDelimiters.write, BlockDelimiters.bodyOf]
      cases hinterior : language.block.interior with
      | none => exact hseparable.foldl_step_writePlain hinterior h
      | some decoration =>
          have hlength : number + 1 + lines.length =
              number + (lines.length + 1 + 1) - 1 := by omega
          dsimp only
          rw [hseparable.foldl_step_documentation hinterior h, List.length_cons,
            List.length_append, List.length_map, List.length_singleton, hlength]
          rfl

theorem foldl_step_source (hseparable : Separable language) {segments : List Segment}
    (h : ∀ segment ∈ segments, segment.Fits language) (number : Nat) (found : List Item) :
    (readableFrom number (segments.flatMap (Segment.write language))).foldl (step language)
        ⟨.outside, found⟩ =
      ⟨.outside,
        ((language.commentsFrom number segments).map Item.comment).reverse ++ found⟩ := by
  induction segments generalizing number found with
  | nil => rfl
  | cons segment rest ih =>
      have hsegment := foldl_step_write hseparable (h segment (List.mem_cons_self ..))
      rw [List.flatMap_cons, readableFrom_append, List.foldl_append, hsegment,
        ih (fun later hlater => h later (List.mem_cons_of_mem _ hlater)),
        CommentLanguage.commentsFrom]
      cases segment.comment? language number <;> simp

/-- A source text is read as the comments of its segments, each on its lines, whatever
becomes of open blocks. -/
theorem read_source {segments : List Segment}
    (hlanguage : language.delimiters ∈ [DelimitedSyntax.cLike, .python, .php])
    (hsegments : ∀ segment ∈ segments, segment.Fits language) (policy : OpenBlockPolicy) :
    read language.delimiters false policy (language.source segments) =
      (language.commentsFrom 1 segments).map .comment := by
  have hseparable := separable_of_mem hlanguage
  have hlines : ∀ line ∈ segments.flatMap (Segment.write language), '\n' ∉ line := by
    intro line hline
    obtain ⟨segment, hsegment, hline⟩ := List.mem_flatMap.mp hline
    exact newline_not_mem_write hseparable (hsegments segment hsegment) line hline
  rw [read, readableLines_eq, CommentLanguage.source, Text.lines_unlines hlines,
    readableFrom_dropReturn, Progress.start, foldl_step_source hseparable hsegments,
    Progress.finish]
  cases policy <;> simp [finish?, outside]

theorem read_source_of_php :
    read .php false .emit
        (CommentLanguage.source
          ⟨"//".toList, ⟨"/**".toList, some "*".toList, "*/".toList⟩, ['"', '\'']⟩
          [.line "a".toList, .code "f();".toList, .block ["b".toList, []], .blank " ".toList]) =
      [.comment (.onLine "a".toList 1), .comment (.written [[], "b".toList, [], []] 3 6)] := by
  have hread := @read_source
    ⟨"//".toList, ⟨"/**".toList, some "*".toList, "*/".toList⟩, ['"', '\'']⟩
    [.line "a".toList, .code "f();".toList, .block ["b".toList, []], .blank " ".toList]
    (by decide) (by decide) .emit
  exact hread.trans (by decide)

end Delimited

end LicenseText
