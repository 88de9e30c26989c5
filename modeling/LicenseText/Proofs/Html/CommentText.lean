import LicenseText.Proofs.Html.NodeTokens
import LicenseText.Proofs.Html.Truncation

/-!
# The text of a comment

A comment between the tags of a document is found behind the items of what stands in front
of it, whatever follows. The reader removes question marks from the text of every comment
token, because instructions arrive as such tokens, so a comment has the lines of its text
exactly when the text does not start with a question mark.
-/

namespace LicenseText

namespace Html

open Text

/-! ## Question marks -/

theorem solidCount_instructionInside_lt {raw : Text} (h : ['?'] <+: raw) :
    solidCount (instructionInside raw) < solidCount raw := by
  obtain ⟨rest, rfl⟩ := h
  have hraw : solidCount (['?'] ++ rest) = 1 + solidCount rest := solidCount_append ['?'] rest
  rw [hraw, List.singleton_append, instructionInside]
  cases hclose : ['?'].isSuffixOf? rest with
  | none =>
      dsimp only [Option.getD_none]
      omega
  | some inside =>
      have hrest := congrArg solidCount (List.append_eq_of_isSuffixOf?_eq_some hclose)
      rw [solidCount_append] at hrest
      dsimp only [Option.getD_some]
      omega

/-- The lines of a text stay as they are exactly when no question mark is removed. -/
theorem lines_instructionInside_iff {raw : Text} :
    ((instructionInside raw).splitOn '\n').map trim = (raw.splitOn '\n').map trim ↔
      ¬['?'] <+: raw := by
  constructor
  · intro hlines hmark
    have hcount := solidCount_instructionInside_lt hmark
    rw [← solidCount_lines, ← solidCount_lines raw, hlines] at hcount
    exact Nat.lt_irrefl _ hcount
  · intro hmark
    rw [instructionInside_of_head_ne hmark]

/-! ## Between tags -/

/-- Whether a `<` is read in the text between tags. A reference in front of it ends there,
and a `<` in front of it is text. -/
def Mode.isBetweenTags : Mode → Bool
  | .data | .tagOpen | .reference none _ => true
  | _ => false

theorem Reference.step_lt (reference : Reference) :
    reference.step '<' = .done reference.close false := by
  cases reference with
  | name seen best => cases seen <;> rfl
  | hash => rfl
  | number base sign value =>
      have hdigit : digitValue? base '<' = none := rfl
      rw [step, stepNumber, hdigit]
      simp

namespace Tokenizer

open Collector

theorem lastStart_letters (t : Tokenizer) (chunk : Text) :
    (t.letters chunk).lastStart = t.lastStart := by
  rw [letters]
  induction chunk generalizing t with
  | nil => rfl
  | cons c chunk ih => exact ih (t.text [c])

/-- A `<` ends a reference in front of it. -/
theorem step_lt_of_reference {t : Tokenizer} {reference : Reference}
    (h : t.mode = .reference none reference) :
    t.step '<' = standing .tagOpen t.line t.lastStart (t.letters reference.close).tokens := by
  have hread : t.read '<' =
      (((t.letters reference.close).enter .data).count '<').readPlain '<' := by
    rw [Tokenizer.read, h]
    dsimp only
    rw [reference.step_lt]
    rfl
  rw [step, if_neg (by decide), if_neg (by simp), hread]
  have hopen : (((t.letters reference.close).enter .data).count '<').readPlain '<' =
      (t.letters reference.close).enter .tagOpen := rfl
  rw [hopen, ← t.line_letters reference.close, ← t.lastStart_letters reference.close]
  rfl

/-- A `<` between tags may open one. It ends the text in front of it as the end of the
document does. -/
theorem step_lt {t : Tokenizer} (h : t.mode.isBetweenTags = true) :
    ∃ tokens, t.step '<' = standing .tagOpen t.line t.lastStart tokens ∧
      ∀ withStrings, (collect withStrings tokens).flush.found =
        (collect withStrings t.close.tokens).flush.found := by
  cases hmode : t.mode with
  | data =>
      obtain ⟨mode, line, afterReturn, last, tokens⟩ := t
      obtain rfl : mode = _ := hmode
      exact ⟨tokens, rfl, fun _ => rfl⟩
  | tagOpen =>
      obtain ⟨mode, line, afterReturn, last, tokens⟩ := t
      obtain rfl : mode = _ := hmode
      exact ⟨_, rfl, fun _ => rfl⟩
  | reference within reference =>
      cases within with
      | none =>
          refine ⟨_, step_lt_of_reference hmode, fun withStrings => ?_⟩
          rw [close, hmode]
      | some kind =>
          rw [hmode] at h
          contradiction
  | _ =>
      rw [hmode] at h
      contradiction

/-- The tokenizer behind the beginning of a document. -/
def behind (front : Text) : Tokenizer := (dropMark front).foldl step .start

/-- What stands behind the beginning of a document is read on from there. A mark is removed
only where the document starts. -/
theorem behind_append {front rest : Text} (h : front = [] → rest.head? ≠ some '\uFEFF') :
    behind (front ++ rest) = rest.foldl step (behind front) := by
  by_cases hfront : front = []
  · subst hfront
    rw [List.nil_append, behind, dropMark_eq_self (h rfl)]
    rfl
  · rw [behind, dropMark_append hfront, List.foldl_append, behind]

end Tokenizer

theorem read_eq_behind (content : Text) (withStrings : Bool) :
    read content withStrings =
      (Collector.collect withStrings
        (Tokenizer.behind content).close.tokens).flush.found.reverse :=
  read_eq_collect content withStrings

/-! ## Comments -/

/-- A comment between tags is found once the document has been read up to its end, behind
the items in front of it. -/
theorem certain_behind_comment {before inside : Text}
    (hbefore : (Tokenizer.behind before).mode.isBetweenTags = true)
    (hinside : IsCommentText inside) (withStrings : Bool) :
    Tokenizer.certain withStrings (Tokenizer.behind (before ++ (Node.comment inside).write)) =
      .comment (Markup.comment (instructionInside inside) (Tokenizer.behind before).line) ::
        (read before withStrings).reverse := by
  obtain ⟨tokens, hopen, hfound⟩ := Tokenizer.step_lt hbefore
  rw [Node.write_comment, Tokenizer.behind_append fun _ => by simp, List.foldl_cons, hopen,
    Tokenizer.foldl_step_comment hinside, Tokenizer.certain_of_not_endsRun rfl rfl,
    read_eq_behind, List.reverse_reverse, ← hfound, Tokenizer.standing,
    Collector.collect_cons, Collector.step_comment]

/-- A comment between tags is found behind the items in front of it, and it has the lines of
its text exactly when the text does not start with a question mark. -/
theorem read_comment_between_tags {before inside : Text}
    (hbefore : (Tokenizer.behind before).mode.isBetweenTags = true)
    (hinside : IsCommentText inside) (after : Text) (withStrings : Bool) :
    ∃ comment, read before withStrings ++ [.comment comment] <+:
        read (before ++ (Node.comment inside).write ++ after) withStrings ∧
      comment = Markup.comment (instructionInside inside) (Tokenizer.behind before).line ∧
      (comment.body = (inside.splitOn '\n').map trim ↔ ¬['?'] <+: inside) := by
  refine ⟨_, ?_, rfl, lines_instructionInside_iff⟩
  have hnonempty : before ++ (Node.comment inside).write ≠ [] := by
    simp [Node.write_comment]
  have hbehind : Tokenizer.behind (before ++ (Node.comment inside).write ++ after) =
      after.foldl Tokenizer.step
        (Tokenizer.behind (before ++ (Node.comment inside).write)) :=
    Tokenizer.behind_append fun hnil => absurd hnil hnonempty
  have hcertain : Tokenizer.certain withStrings
        (Tokenizer.behind (before ++ (Node.comment inside).write)) <:+
      (read (before ++ (Node.comment inside).write ++ after) withStrings).reverse := by
    rw [read_eq_behind, List.reverse_reverse, hbehind]
    exact (Tokenizer.certain_suffix_foldl _ after).trans (Tokenizer.found_close withStrings _).1
  rw [certain_behind_comment hbefore hinside withStrings] at hcertain
  rw [← List.reverse_suffix, List.reverse_append]
  exact hcertain

theorem read_comment_between_tags_of_note :
    (Tokenizer.behind "<p>a\n".toList).mode.isBetweenTags = true ∧
      IsCommentText "b?\n-".toList ∧
      ∃ comment, read "<p>a\n".toList true ++ [.comment comment] <+:
          read ("<p>a\n".toList ++ (Node.comment "b?\n-".toList).write ++ "?".toList) true ∧
        comment = Markup.comment (instructionInside "b?\n-".toList)
          (Tokenizer.behind "<p>a\n".toList).line ∧
        (comment.body = ("b?\n-".toList.splitOn '\n').map trim ↔
          ¬['?'] <+: "b?\n-".toList) := by
  have hbefore : (Tokenizer.behind "<p>a\n".toList).mode.isBetweenTags = true := by decide
  have hinside : IsCommentText "b?\n-".toList :=
    ⟨by decide, by decide, by decide, by decide, by decide⟩
  exact ⟨hbefore, hinside, read_comment_between_tags hbefore hinside "?".toList true⟩

/-- The question marks of a comment that is no instruction are removed. -/
theorem body_ne_of_questionMarks :
    (Tokenizer.behind []).mode = .data ∧ IsCommentText "?x?".toList ∧
      read (Node.comment "?x?".toList).write true = [.comment (.onLine "x".toList 1)] ∧
      (Comment.onLine "x".toList 1).body ≠ ("?x?".toList.splitOn '\n').map trim := by
  refine ⟨rfl, ⟨?_, ?_, ?_, ?_, ?_⟩, ?_, ?_⟩ <;> decide

end Html

end LicenseText
