import Mathlib.Data.List.Forall2
import LicenseText.Proofs.Html.Collector
import LicenseText.Proofs.WithoutStrings

/-!
# Text in chunks

The text between two marks of a document, which are its comments and its other markup, may
be delivered in any chunks, and tokens that say nothing of the document may stand between
these. A `Source` is what the deliveries have in common. The collector holds the beginning
of a run of text together with the line on which the run starts, whatever chunks it came
in, so that the items depend on the source alone.
-/

namespace LicenseText

namespace Html

/-! ## Sources -/

/-- Whether a token is markup other than a comment, or the end of the document. -/
def Token.isMarkup : Token → Bool
  | .startTag _ _ | .endTag _ | .documentType | .endOfDocument => true
  | .text _ | .comment _ | .null | .malformed => false

/-- Whether a token says nothing of what stands in the document. -/
def Token.isSilent : Token → Bool
  | .null | .malformed => true
  | _ => false

/-- What ends a run of text. -/
inductive Mark where
  | comment (raw : Text)
  /-- Markup other than a comment, with the number of line feeds that stand in it. -/
  | markup (token : Token) (isMarkup : token.isMarkup = true) (breaks : Nat)

namespace Mark

def breaks : Mark → Nat
  | .comment raw => Text.breaks raw
  | .markup _ _ breaks => breaks

/-- A mark that starts on `line` is delivered as a token. Behind a comment the tokenizer
stands on the line on which the comment ends; where it stands behind other markup does not
matter. -/
def IsDeliveredAs (line : Nat) (located : LocatedToken) : Mark → Prop
  | .comment raw => located = ⟨.comment raw, line + Text.breaks raw⟩
  | .markup token _ _ => located.token = token

/-- The item of a mark that starts on `line`. -/
def item? (line : Nat) : Mark → Option Item
  | .comment raw => some (.comment (Markup.comment (instructionInside raw) line))
  | .markup _ _ _ => none

end Mark

/-- A mark and the run of text behind it, which may be empty. -/
structure Segment where
  mark : Mark
  run : Text

/-- The marks of a document, with the text in front of the first one and behind each. -/
structure Source where
  front : Text
  segments : List Segment

/-- What is left of a source, from a line on, is delivered as the tokens: the run of text
that is to come, and the segments. Text comes in chunks, behind each of which the tokenizer
stands on the line that the chunk ends on. -/
inductive Delivers : Nat → Text → List Segment → List LocatedToken → Prop where
  | done (line : Nat) : Delivers line [] [] []
  | text {line : Nat} {run : Text} {segments : List Segment} {tokens : List LocatedToken}
      (chunk : Text) (behind : Delivers (line + Text.breaks chunk) run segments tokens) :
      Delivers line (chunk ++ run) segments
        (⟨.text chunk, line + Text.breaks chunk⟩ :: tokens)
  | silent {line : Nat} {run : Text} {segments : List Segment} {located : LocatedToken}
      {tokens : List LocatedToken} (silent : located.token.isSilent = true)
      (behind : Delivers line run segments tokens) :
      Delivers line run segments (located :: tokens)
  | mark {line : Nat} {mark : Mark} {run : Text} {segments : List Segment}
      {located : LocatedToken} {tokens : List LocatedToken}
      (token : mark.IsDeliveredAs line located)
      (behind : Delivers (line + mark.breaks) run segments tokens) :
      Delivers line [] (⟨mark, run⟩ :: segments) (located :: tokens)

def Source.IsDeliveredAs (source : Source) (tokens : List LocatedToken) : Prop :=
  Delivers 1 source.front source.segments tokens

/-! ## Runs of text -/

/-- A text between marks and the line on which it starts. -/
structure Run where
  line : Nat
  text : Text

namespace Run

/-- Whether a run of text has a character that is not a blank. -/
def isInked (run : Run) : Bool := !run.text.all isBlank

/-- A literal is the trimmed text of a run, on the line of the first character of the run
that is not a blank. -/
def IsReadAs (run : Run) (literal : StringLiteral) : Prop :=
  ∃ blanks c ink, run.text = blanks ++ c :: ink ∧ Text.IsBlank blanks ∧ isBlank c = false ∧
    literal.text = run.text.trim ∧ literal.line = run.line + Text.breaks blanks

/-- What is collected of a run. -/
def literal? (run : Run) : Option StringLiteral := Markup.text? run.text run.line

theorem isInked_iff {run : Run} : run.isInked = true ↔ run.literal?.isSome = true := by
  rw [isInked, literal?, Markup.text?, Text.isEmpty_trim]
  cases run.text.all isBlank <;> simp

/-- The runs with ink are read one by one, and there are no other literals. -/
theorem forall₂_isReadAs (runs : List Run) :
    List.Forall₂ IsReadAs (runs.filter isInked) (runs.filterMap literal?) := by
  induction runs with
  | nil => exact .nil
  | cons run runs ih =>
      cases hliteral : run.literal? with
      | none =>
          have hblank : ¬run.isInked = true := by
            rw [isInked_iff, hliteral]
            exact Bool.false_ne_true
          rw [List.filter_cons_of_neg hblank, List.filterMap_cons_none hliteral]
          exact ih
      | some literal =>
          have hinked : run.isInked = true := by
            rw [isInked_iff, hliteral]
            rfl
          rw [List.filter_cons_of_pos hinked, List.filterMap_cons_some hliteral]
          exact .cons (Markup.exists_ink_of_text? hliteral) ih

end Run

/-- A run of text that starts on a line, and the runs behind the marks that follow. -/
def runsFrom (line : Nat) (run : Text) : List Segment → List Run
  | [] => [⟨line, run⟩]
  | ⟨mark, behind⟩ :: segments =>
    ⟨line, run⟩ :: runsFrom (line + Text.breaks run + mark.breaks) behind segments

def Source.runs (source : Source) : List Run := runsFrom 1 source.front source.segments

/-- The items of a run of text that starts on a line, and of the segments that follow. -/
def itemsFrom (line : Nat) (run : Text) : List Segment → List Item
  | [] => ((Run.literal? ⟨line, run⟩).map Item.string).toList
  | ⟨mark, behind⟩ :: segments =>
    ((Run.literal? ⟨line, run⟩).map Item.string).toList ++
      (mark.item? (line + Text.breaks run)).toList ++
      itemsFrom (line + Text.breaks run + mark.breaks) behind segments

def Source.items (source : Source) : List Item := itemsFrom 1 source.front source.segments

theorem stringsOf_itemsFrom (line : Nat) (run : Text) (segments : List Segment) :
    stringsOf (itemsFrom line run segments) =
      (runsFrom line run segments).filterMap Run.literal? := by
  have hmark : ∀ (mark : Mark) line, stringsOf (mark.item? line).toList = [] := by
    intro mark line
    cases mark <;> rfl
  have hcons : ∀ (run : Run) runs, (run :: runs).filterMap Run.literal? =
      run.literal?.toList ++ runs.filterMap Run.literal? := by
    intro run runs
    rw [List.filterMap_cons]
    cases run.literal? <;> rfl
  induction segments generalizing line run with
  | nil => rw [itemsFrom, runsFrom, stringsOf_toList, hcons, List.filterMap_nil, List.append_nil]
  | cons segment segments ih =>
      rw [itemsFrom, runsFrom, stringsOf_append, stringsOf_append, stringsOf_toList, hmark,
        ih, hcons, List.append_nil]

/-! ## The collector -/

namespace Collector

variable {collector : Collector} {line : Nat} {run : Run} {tokens : List LocatedToken}

/-- The collector holds a run, of which it knows the line once there is any text. -/
structure Holds (collector : Collector) (run : Run) : Prop where
  held : collector.held = run.text.reverse
  line : run.text ≠ [] → collector.heldLine = run.line

theorem holds_nil (h : collector.held = []) (line : Nat) : collector.Holds ⟨line, []⟩ where
  held := h
  line := fun hne => absurd rfl hne

/-- A chunk is added to the run that is held. -/
theorem Holds.hold (h : collector.Holds run) (chunk : Text) :
    (collector.hold chunk (run.line + Text.breaks run.text + Text.breaks chunk)).Holds
      ⟨run.line, run.text ++ chunk⟩ where
  held := by rw [Collector.hold, h.held, List.reverse_append]
  line := by
    intro _
    rw [Collector.hold, h.held]
    split
    case isTrue hnil =>
      have hrun : run.text = [] := by simpa using hnil
      simp [hrun]
    case isFalse hne => exact h.line fun hrun => hne (by simp [hrun])

theorem Holds.found_flush (h : collector.Holds run) :
    collector.flush.found = (run.literal?.map Item.string).toList ++ collector.found := by
  rw [flush, h.held, List.reverse_reverse, Run.literal?]
  by_cases hrun : run.text = []
  · rw [hrun]
    rfl
  · rw [h.line hrun]

theorem step_of_isSilent {located : LocatedToken} (h : located.token.isSilent = true) :
    collector.step true located = collector := by
  obtain ⟨token, behind⟩ := located
  cases token with
  | null => rfl
  | malformed => rfl
  | _ => contradiction

/-- A mark ends the run of text in front of it. -/
theorem step_mark {mark : Mark} {located : LocatedToken}
    (h : mark.IsDeliveredAs line located) :
    (collector.step true located).held = [] ∧
      (collector.step true located).found =
        (mark.item? line).toList ++ collector.flush.found := by
  cases mark with
  | comment raw =>
      obtain rfl : located = _ := h
      rw [step_comment]
      exact ⟨rfl, rfl⟩
  | markup token hmarkup breaks =>
      obtain ⟨delivered, behind⟩ := located
      have hdelivered : delivered = token := h
      subst hdelivered
      cases delivered with
      | text chunk => contradiction
      | comment raw => contradiction
      | null => contradiction
      | malformed => contradiction
      | _ => exact ⟨rfl, rfl⟩

/-- What is left of a source adds its items to those that have been found, the run of text
that is held being the beginning of the first run. -/
theorem finish_foldl_delivers {toCome : Text} {segments : List Segment}
    (h : Delivers line toCome segments tokens) (hholds : collector.Holds run)
    (hline : line = run.line + Text.breaks run.text) :
    (tokens.foldl (step true) collector).finish =
      collector.found.reverse ++ itemsFrom run.line (run.text ++ toCome) segments := by
  induction h generalizing collector run with
  | done line =>
      rw [List.foldl_nil, finish, hholds.found_flush, List.reverse_append, reverse_toList,
        List.append_nil, itemsFrom]
  | text chunk behind ih =>
      subst hline
      have hrest := ih (hholds.hold chunk) (by rw [Text.breaks_append, Nat.add_assoc])
      rw [List.append_assoc] at hrest
      exact hrest
  | silent hsilent behind ih =>
      rw [List.foldl_cons, step_of_isSilent hsilent]
      exact ih hholds hline
  | @mark line mark _ _ _ _ hmark behind ih =>
      obtain ⟨hnone, hfound⟩ := step_mark hmark
      have hrest := ih (holds_nil hnone (line + mark.breaks)) rfl
      rw [List.foldl_cons, hrest, hfound, hholds.found_flush, List.reverse_append,
        List.reverse_append, reverse_toList, reverse_toList, List.append_nil, itemsFrom, ← hline]
      simp only [List.append_assoc, List.nil_append]

end Collector

/-! ## Any chunks -/

theorem itemsOf_eq_items {source : Source} {tokens : List LocatedToken}
    (h : source.IsDeliveredAs tokens) : itemsOf true tokens = source.items :=
  Collector.finish_foldl_delivers h (Collector.holds_nil rfl 1) rfl

/-- Two deliveries of a source give the same items, whatever chunks its text is cut into,
and the strings among them are the runs of text with ink, each on the line of its first
character that is not a blank. -/
theorem itemsOf_deliveries_agree {source : Source} {tokens others : List LocatedToken}
    (h : source.IsDeliveredAs tokens) (hothers : source.IsDeliveredAs others) :
    (∀ withStrings, itemsOf withStrings tokens = itemsOf withStrings others) ∧
      List.Forall₂ Run.IsReadAs (source.runs.filter Run.isInked)
        (stringsOf (itemsOf true tokens)) := by
  have hagree : itemsOf true tokens = itemsOf true others := by
    rw [itemsOf_eq_items h, itemsOf_eq_items hothers]
  constructor
  · intro withStrings
    cases withStrings with
    | true => exact hagree
    | false => rw [itemsOf_withoutStrings, itemsOf_withoutStrings, hagree]
  · rw [itemsOf_eq_items h, Source.items, stringsOf_itemsFrom]
    exact Run.forall₂_isReadAs source.runs

theorem itemsOf_deliveries_agree_of_note :
    Source.IsDeliveredAs
        ⟨"\na".toList, [⟨.comment "b\nc".toList, []⟩, ⟨.markup .endOfDocument rfl 0, []⟩]⟩
        [⟨.text "\n".toList, 2⟩, ⟨.text "a".toList, 2⟩, ⟨.comment "b\nc".toList, 3⟩,
          ⟨.endOfDocument, 3⟩] ∧
      Source.IsDeliveredAs
        ⟨"\na".toList, [⟨.comment "b\nc".toList, []⟩, ⟨.markup .endOfDocument rfl 0, []⟩]⟩
        [⟨.malformed, 1⟩, ⟨.text [], 1⟩, ⟨.text "\na".toList, 2⟩, ⟨.null, 2⟩,
          ⟨.comment "b\nc".toList, 3⟩, ⟨.text [], 3⟩, ⟨.endOfDocument, 3⟩] ∧
      itemsOf true [⟨.text "\n".toList, 2⟩, ⟨.text "a".toList, 2⟩,
          ⟨.comment "b\nc".toList, 3⟩, ⟨.endOfDocument, 3⟩] =
        itemsOf true [⟨.malformed, 1⟩, ⟨.text [], 1⟩, ⟨.text "\na".toList, 2⟩, ⟨.null, 2⟩,
          ⟨.comment "b\nc".toList, 3⟩, ⟨.text [], 3⟩, ⟨.endOfDocument, 3⟩] := by
  have hcut : Source.IsDeliveredAs
      ⟨"\na".toList, [⟨.comment "b\nc".toList, []⟩, ⟨.markup .endOfDocument rfl 0, []⟩]⟩
      [⟨.text "\n".toList, 2⟩, ⟨.text "a".toList, 2⟩, ⟨.comment "b\nc".toList, 3⟩,
        ⟨.endOfDocument, 3⟩] := by
    apply Delivers.text "\n".toList
    apply Delivers.text "a".toList
    refine Delivers.mark rfl ?_
    refine Delivers.mark rfl ?_
    exact Delivers.done 3
  have hwhole : Source.IsDeliveredAs
      ⟨"\na".toList, [⟨.comment "b\nc".toList, []⟩, ⟨.markup .endOfDocument rfl 0, []⟩]⟩
      [⟨.malformed, 1⟩, ⟨.text [], 1⟩, ⟨.text "\na".toList, 2⟩, ⟨.null, 2⟩,
        ⟨.comment "b\nc".toList, 3⟩, ⟨.text [], 3⟩, ⟨.endOfDocument, 3⟩] := by
    apply Delivers.silent rfl
    apply Delivers.text []
    apply Delivers.text "\na".toList
    apply Delivers.silent rfl
    refine Delivers.mark rfl ?_
    apply Delivers.text []
    refine Delivers.mark rfl ?_
    exact Delivers.done 3
  exact ⟨hcut, hwhole, (itemsOf_deliveries_agree hcut hwhole).1 true⟩

end Html

end LicenseText
