import LicenseText.Proofs.Html.TextLines
import LicenseText.Proofs.Item.StringOrder
import LicenseText.Proofs.WithoutStrings

/-!
# The texts of an HTML document stand in order

The reader finds the line of a run of text from its first chunk and from the blanks at its
start. Where the text tokens have room for their line feeds, that line lies between the
token in front of the run and the token behind it, so the strings of a document stand in
the order of their lines.
-/

namespace LicenseText

namespace Html

/-! ## The blanks at the start of a text -/

section Leading

variable {s : Text}

theorem takeWhile_append_of_ink (hink : s.any (fun c => !isBlank c) = true) (t : Text) :
    (s ++ t).takeWhile isBlank = s.takeWhile isBlank := by
  induction s with
  | nil => contradiction
  | cons c s ih =>
      rw [List.cons_append, List.takeWhile_cons, List.takeWhile_cons]
      by_cases hc : isBlank c = true
      · rw [if_pos hc, if_pos hc, ih (by simpa [hc] using hink)]
      · rw [if_neg hc, if_neg hc]

theorem breaks_takeWhile_append_le (s t : Text) :
    Text.breaks ((s ++ t).takeWhile isBlank) ≤
      Text.breaks (s.takeWhile isBlank) + Text.breaks t := by
  induction s with
  | nil =>
      have hle := Text.breaks_le_of_sublist (List.takeWhile_sublist isBlank (l := t))
      simpa using hle
  | cons c s ih =>
      rw [List.cons_append, List.takeWhile_cons, List.takeWhile_cons]
      by_cases hc : isBlank c = true
      · rw [if_pos hc, if_pos hc, Text.breaks_cons, Text.breaks_cons]
        omega
      · rw [if_neg hc, Text.breaks_nil]
        exact Nat.zero_le _

end Leading

namespace Collector

variable {collector : Collector} {tokens : List LocatedToken} {line : Nat}

/-- The first line on which a string that is still to come may be found. -/
def reach (collector : Collector) (line : Nat) : Nat :=
  if collector.held = [] then line else collector.heldLine

/-- The collector behind tokens that stand newest first: the strings found are in order and
in front of the run of text that is held, and the blanks at the start of that run end on a
line that has been reached. -/
structure Follows (tokens : List LocatedToken) (collector : Collector) : Prop where
  found : StringLiteral.InOrder 1 (collector.reach (lastLine tokens))
    (stringsOf collector.found.reverse)
  leading : collector.held ≠ [] →
    collector.heldLine + Text.breaks (collector.held.reverse.takeWhile isBlank) ≤
      lastLine tokens
  inked : inked tokens = true → collector.held.any (fun c => !isBlank c) = true

theorem follows_start : start.Follows [] where
  found := Nat.le_refl 1
  leading := fun hheld => absurd rfl hheld
  inked := fun hinked => by contradiction

namespace Follows

theorem reach_le (h : collector.Follows tokens) (hline : lastLine tokens ≤ line) :
    collector.reach (lastLine tokens) ≤ line := by
  rw [reach]
  split
  · exact hline
  case isFalse hheld =>
    have hleading := h.leading hheld
    omega

theorem reach_mono {earlier later : Nat} (h : earlier ≤ later) :
    collector.reach earlier ≤ collector.reach later := by
  rw [reach, reach]
  split
  · exact h
  · exact Nat.le_refl _

/-- A token that is no text and ends no run. -/
theorem pass (h : collector.Follows tokens) {token : Token}
    (htoken : token = .null ∨ token = .malformed) (hline : lastLine tokens ≤ line) :
    collector.Follows (⟨token, line⟩ :: tokens) where
  found := h.found.weaken_last (reach_mono hline)
  leading := fun hheld => Nat.le_trans (h.leading hheld) hline
  inked := by
    intro hinked
    apply h.inked
    rcases htoken with rfl | rfl <;> exact hinked

/-- A chunk of text. -/
theorem hold (h : collector.Follows tokens) {chunk : Text} (hline : lastLine tokens ≤ line)
    (hroom : Html.inked tokens = true ∨ lastLine tokens + Text.breaks chunk ≤ line) :
    (collector.hold chunk line).Follows (⟨.text chunk, line⟩ :: tokens) := by
  have hheld : (collector.hold chunk line).held.reverse = collector.held.reverse ++ chunk := by
    rw [Collector.hold, List.reverse_append, List.reverse_reverse]
  have hinked : Html.inked (⟨.text chunk, line⟩ :: tokens) = true →
      (collector.hold chunk line).held.any (fun c => !isBlank c) = true := by
    intro hany
    rw [Html.inked, Bool.or_eq_true] at hany
    rw [← List.any_reverse, hheld, List.any_append, List.any_reverse, Bool.or_eq_true]
    exact hany.symm.imp_left h.inked
  by_cases hnil : collector.held = []
  · have hheldLine : (collector.hold chunk line).heldLine = line - Text.breaks chunk := by
      simp [Collector.hold, hnil]
    have hroom : lastLine tokens + Text.breaks chunk ≤ line := by
      refine hroom.resolve_left fun hany => ?_
      have hink := h.inked hany
      rw [hnil] at hink
      contradiction
    refine ⟨?_, ?_, hinked⟩
    · have hfound := h.found
      rw [reach, if_pos hnil] at hfound
      refine hfound.weaken_last ?_
      rw [reach]
      split
      · exact hline
      · rw [hheldLine]
        omega
    · intro _
      have hchunk := Text.breaks_le_of_sublist (List.takeWhile_sublist isBlank (l := chunk))
      rw [hheld, hheldLine, hnil, List.reverse_nil, List.nil_append, lastLine]
      dsimp only
      omega
  · have hheldLine : (collector.hold chunk line).heldLine = collector.heldLine := by
      simp [Collector.hold, hnil]
    refine ⟨?_, ?_, hinked⟩
    · have hfound := h.found
      rw [reach, if_neg hnil] at hfound
      rw [reach, if_neg (by simp [Collector.hold, hnil]), hheldLine]
      exact hfound
    · intro _
      have hleading := h.leading hnil
      rw [hheld, hheldLine, lastLine]
      rcases hroom with hany | hroom
      · have hink := h.inked hany
        rw [← List.any_reverse] at hink
        rw [takeWhile_append_of_ink hink]
        exact Nat.le_trans hleading hline
      · have hle := breaks_takeWhile_append_le collector.held.reverse chunk
        dsimp only
        omega

/-- The end of a run of text. -/
theorem flush (h : collector.Follows tokens) (hline : lastLine tokens ≤ line) :
    StringLiteral.InOrder 1 line (stringsOf collector.flush.found.reverse) := by
  have hbehind : StringLiteral.InOrder (collector.reach (lastLine tokens)) line
      (Markup.text? collector.held.reverse collector.heldLine).toList := by
    apply StringLiteral.InOrder.toList (h.reach_le hline)
    intro s hs
    have hheld : collector.held ≠ [] := by
      intro hnil
      rw [hnil] at hs
      contradiction
    have hleading := h.leading hheld
    rw [reach, if_neg hheld, Markup.line_of_text? hs]
    omega
  have hall := h.found.append hbehind
  rw [← stringsOf_toList, ← stringsOf_append] at hall
  have hfound : collector.flush.found.reverse = collector.found.reverse ++
      ((Markup.text? collector.held.reverse collector.heldLine).map Item.string).toList := by
    rw [Collector.flush, List.reverse_append]
    cases Markup.text? collector.held.reverse collector.heldLine <;> rfl
  rwa [hfound]

/-- A token that ends a run of text. -/
theorem close (h : collector.Follows tokens) {token : Token} {behind : Collector}
    (hline : lastLine tokens ≤ line) (hheld : behind.held = [])
    (hfound : stringsOf behind.found.reverse = stringsOf collector.flush.found.reverse)
    (htoken : Html.inked (⟨token, line⟩ :: tokens) = false) :
    behind.Follows (⟨token, line⟩ :: tokens) where
  found := by
    rw [reach, if_pos hheld, hfound]
    exact h.flush hline
  leading := fun hne => absurd hheld hne
  inked := fun hinked => by rw [htoken] at hinked; contradiction

theorem step (h : collector.Follows tokens) {token : Token} (hline : lastLine tokens ≤ line)
    (hroom : Html.inked tokens = true ∨ lastLine tokens + token.breaks ≤ line) :
    (collector.step true ⟨token, line⟩).Follows (⟨token, line⟩ :: tokens) := by
  cases token with
  | text chunk => exact h.hold hline hroom
  | null => exact h.pass (.inl rfl) hline
  | malformed => exact h.pass (.inr rfl) hline
  | comment raw =>
      refine h.close hline rfl ?_ rfl
      simp only [Collector.step, Collector.comment, List.reverse_cons, stringsOf_append,
        stringsOf_cons_comment]
      exact List.append_nil _
  | startTag name selfClosing => exact h.close hline rfl rfl rfl
  | endTag name => exact h.close hline rfl rfl rfl
  | documentType => exact h.close hline rfl rfl rfl
  | endOfDocument => exact h.close hline rfl rfl rfl

end Follows

theorem follows_collect {tokens : List LocatedToken} (h : TextsPlaced tokens) :
    (collect true tokens).Follows tokens := by
  induction tokens with
  | nil => exact follows_start
  | cons located earlier ih =>
      obtain ⟨hline, hroom, hearlier⟩ := h
      exact (ih hearlier).step hline hroom

end Collector

/-- The strings of a document without references to line feeds stand in the order of their
lines. -/
theorem pairwise_line_read {content : Text} (hplain : NoBreakReference content)
    (withStrings : Bool) :
    (stringsOf (read content withStrings)).Pairwise fun s later => s.line ≤ later.line := by
  cases withStrings with
  | false =>
      rw [read_withoutStrings, stringsOf_filter_isComment]
      exact .nil
  | true =>
      obtain ⟨newestFirst, htokens, hplaced⟩ := textsPlaced_tokens hplain
      have hfollows := Collector.follows_collect hplaced
      have hstrings := hfollows.flush (Nat.le_refl _)
      rw [read, htokens, Collector.itemsOf_reverse]
      exact hstrings.pairwise_line

end Html

end LicenseText
