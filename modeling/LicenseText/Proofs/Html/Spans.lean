import LicenseText.Proofs.Html.Collector
import LicenseText.Proofs.Html.CommentLines
import LicenseText.Proofs.Item.Spans
import LicenseText.Proofs.Markup

/-!
# The comments of an HTML document stand in order

The reader finds the start of a comment by going back from the line of its token over
the line feeds in its text. The tokens leave room for these line feeds, so a comment
never starts in front of the end of the comment before it.
-/

namespace LicenseText

namespace Html

namespace Collector

variable {withStrings : Bool} {collector : Collector}

theorem commentsOf_flush :
    commentsOf collector.flush.found.reverse = commentsOf collector.found.reverse := by
  cases htext : Markup.text? collector.held.reverse collector.heldLine with
  | none => simp [flush, htext]
  | some literal => simp [flush, htext, commentsOf, Item.comment?]

theorem commentsOf_step {token : Token} (h : token.isComment = false) (line : Nat) :
    commentsOf (collector.step withStrings ⟨token, line⟩).found.reverse =
      commentsOf collector.found.reverse := by
  cases token with
  | comment raw => contradiction
  | text chunk => cases withStrings <;> rfl
  | null => rfl
  | malformed => rfl
  | startTag name selfClosing => exact commentsOf_flush
  | endTag name => exact commentsOf_flush
  | documentType => exact commentsOf_flush
  | endOfDocument => exact commentsOf_flush

theorem commentsOf_step_comment (raw : Text) (line : Nat) :
    commentsOf (collector.step withStrings ⟨.comment raw, line⟩).found.reverse =
      commentsOf collector.found.reverse ++
        [Markup.comment (instructionInside raw)
          (line - Text.breaks (instructionInside raw))] := by
  rw [← @commentsOf_flush collector]
  simp [step, comment]

/-- The comments of tokens that stand newest first are in order. -/
theorem inOrder_collect {tokens : List LocatedToken} (h : CommentsPlaced tokens) :
    Comment.InOrder 1 (lastCommentLine tokens)
      (commentsOf (collect withStrings tokens).found.reverse) := by
  induction tokens with
  | nil => exact Nat.le_refl 1
  | cons located earlier ih =>
      obtain ⟨token, line⟩ := located
      rw [collect_cons]
      by_cases htoken : token.isComment = false
      · rw [commentsOf_step htoken, lastCommentLine_cons htoken]
        exact ih ((commentsPlaced_cons htoken line earlier).mp h)
      · cases token with
        | comment raw =>
            obtain ⟨hroom, hearlier⟩ := h
            have hinside := breaks_instructionInside raw
            rw [commentsOf_step_comment]
            refine (ih hearlier).append (.single ?_ ?_ ?_)
            · rw [Markup.startLine_comment]
              omega
            · rw [Markup.startLine_comment, Markup.endLine_comment]
              omega
            · rw [Markup.endLine_comment, lastCommentLine]
              omega
        | _ => exact absurd rfl htoken

theorem fillsSpan_collect (tokens : List LocatedToken) :
    ∀ c ∈ commentsOf (collect withStrings tokens).found.reverse, c.FillsSpan := by
  induction tokens with
  | nil => simp [collect, start]
  | cons located earlier ih =>
      obtain ⟨token, line⟩ := located
      rw [collect_cons]
      by_cases htoken : token.isComment = false
      · rwa [commentsOf_step htoken]
      · cases token with
        | comment raw =>
            rw [commentsOf_step_comment]
            intro c hc
            rcases List.mem_append.mp hc with hc | hc
            · exact ih c hc
            · rw [List.mem_singleton.mp hc]
              exact Markup.fillsSpan_comment _ _
        | _ => exact absurd rfl htoken

end Collector

/-- The comments of an HTML document are in order, on the lines of the document. -/
theorem inOrder_read (content : Text) (withStrings : Bool) :
    Comment.InOrder 1 (1 + lineBreaks content) (commentsOf (read content withStrings)) := by
  obtain ⟨newestFirst, htokens, hplaced, hlast⟩ := commentsPlaced_tokens content
  rw [read, htokens, Collector.itemsOf_reverse, Collector.commentsOf_flush]
  exact (Collector.inOrder_collect hplaced).weaken_last hlast

/-- The comments of an HTML document have as many lines as they span. -/
theorem fillsSpan_read (content : Text) (withStrings : Bool) :
    ∀ c ∈ commentsOf (read content withStrings), c.FillsSpan := by
  rw [read_eq_collect, Collector.commentsOf_flush]
  exact Collector.fillsSpan_collect _

end Html

end LicenseText
