import LicenseText.Proofs.Item.StringOrder
import LicenseText.Proofs.Xml.Spans

/-!
# The texts of an XML document stand in order

A piece of a document without a byte order mark lies between its positions, and so does
the text that it holds. A text has no fewer line feeds than it has decoded, unless one of
its references stands for a line feed; so it is found on the lines of its event, and the
strings of a document stand in the order of their lines.
-/

namespace LicenseText

namespace Xml

open Text

/-! ## Decoding -/

/-- What the reference stands for whose ampersand is followed by the text. -/
def referenceValue (t : Text) : Text := (expand? (t.takeWhile (· ≠ ';'))).toList

theorem newline_not_mem_referenceValue {t : Text} :
    '\n' ∉ referenceValue t ↔ expand? (t.takeWhile (· ≠ ';')) ≠ some '\n' := by
  rw [referenceValue, Option.mem_toList]

/-- Decoding adds no line feeds, where the name that has begun and the names to come belong
to no line feed. -/
theorem breaks_decodeFrom?_le {out t after decoded : Text} {name? : Option Text}
    (h : decodeFrom? out name? t = some decoded)
    (hplain : Markup.NoBreakReference referenceValue (t ++ after))
    (hname : ∀ name ∈ name?,
      expand? (name.reverse ++ (t ++ after).takeWhile (· ≠ ';')) ≠ some '\n') :
    breaks decoded ≤ breaks out + breaks t := by
  induction t generalizing out name? with
  | nil =>
      cases name? with
      | none =>
          obtain rfl : out.reverse = decoded := Option.some.inj h
          rw [breaks_reverse]
          exact Nat.le_add_right _ _
      | some name => contradiction
  | cons c t ih =>
      obtain ⟨hc, hrest⟩ := hplain
      have hcons := breaks_cons c t
      cases name? with
      | none =>
          rw [decodeFrom?] at h
          split at h
          case isTrue hamp =>
            have hle := ih h hrest (by
              rintro name ⟨rfl⟩
              exact newline_not_mem_referenceValue.mp (hc hamp))
            omega
          case isFalse =>
            have hle := ih h hrest (by simp)
            rw [breaks_cons c out] at hle
            omega
      | some name =>
          rw [decodeFrom?] at h
          have hbegun := hname name rfl
          split at h
          case isTrue => contradiction
          case isFalse =>
            split at h
            case isTrue hend =>
              split at h
              case h_1 d hd =>
                have hd' : d ≠ '\n' := by
                  rintro rfl
                  apply hbegun
                  simpa [hend] using hd
                have hle := ih h hrest (by simp)
                rw [breaks_cons d out, if_neg hd'] at hle
                omega
              case h_2 => contradiction
            case isFalse hend =>
              have hle := ih h hrest (by
                rintro name' ⟨rfl⟩
                simpa [hend] using hbegun)
              omega

/-- A text that is shown has no more line feeds than were written. -/
theorem breaks_decode?_le {raw after : Text}
    (hplain : Markup.NoBreakReference referenceValue (raw ++ after)) :
    breaks ((decode? raw).getD raw) ≤ breaks raw := by
  cases hdecoded : decode? raw with
  | none => exact Nat.le_refl _
  | some decoded =>
      have hle := breaks_decodeFrom?_le hdecoded hplain (by simp)
      rwa [breaks_nil, Nat.zero_add] at hle

/-! ## Events -/

def EventKind.inside : EventKind → Text
  | .text raw => raw
  | .comment inside => inside
  | .characterData inside => inside
  | .instruction | .markup => []

namespace Piece

variable {kind : EventKind} {seen : Text}

theorem inside_infix_of_commentOf (h : commentOf seen = .ok kind) :
    kind.inside <:+: seen := by
  rw [commentOf] at h
  split at h
  case h_1 rest hopen =>
    obtain rfl := Except.ok.inj h
    rw [← List.append_eq_of_isPrefixOf?_eq_some hopen]
    exact (List.take_prefix _ _).isInfix.trans (List.suffix_append _ _).isInfix
  case h_2 => contradiction

theorem inside_infix_of_characterDataOf (h : characterDataOf seen = .ok kind) :
    kind.inside <:+: seen := by
  rw [characterDataOf] at h
  split at h
  case h_1 rest hopen =>
    obtain rfl := Except.ok.inj h
    rw [← List.append_eq_of_isPrefixOf?_eq_some hopen]
    exact (List.take_prefix _ _).isInfix.trans (List.suffix_append _ _).isInfix
  case h_2 => contradiction

theorem inside_infix_of_documentTypeOf (h : documentTypeOf seen = .ok kind) :
    kind.inside <:+: seen := by
  rw [eq_of_documentTypeOf h]
  exact List.nil_infix

theorem inside_infix_of_instructionOf (h : instructionOf seen = .ok kind) :
    kind.inside <:+: seen := by
  rw [eq_of_instructionOf h]
  exact List.nil_infix

theorem inside_infix_delimited {opening body : Text} {parts? : Option (Text × Text)}
    {judge : Text → Verdict} {fault : Fault}
    (hjudge : ∀ seen, judge seen = .ok kind → kind.inside <:+: seen)
    (h : (delimited opening body parts? judge fault).verdict = .ok kind) :
    kind.inside <:+: (delimited opening body parts? judge fault).taken := by
  obtain ⟨inside, rest, -, hinside, htaken, -⟩ := taken_delimited h
  rw [htaken]
  exact List.infix_append_of_infix_left
    (List.infix_append_of_infix_right (hjudge inside hinside))

/-- The text of an event stands among the characters that were read for it. -/
theorem inside_infix_first {c : Char} {rest : Text}
    (h : (first c rest).verdict = .ok kind) : kind.inside <:+: (first c rest).taken := by
  rw [first] at h ⊢
  split at h
  case isFalse hc =>
    rw [if_neg hc]
    obtain rfl := Except.ok.inj h
    exact List.infix_refl _
  case isTrue hc =>
    rw [if_pos hc]
    rw [ofMarkup.eq_def] at h ⊢
    split at h
    · split at h
      · exact inside_infix_delimited (fun _ => inside_infix_of_commentOf) h
      · exact inside_infix_delimited (fun _ => inside_infix_of_characterDataOf) h
      · exact inside_infix_delimited (fun _ => inside_infix_of_documentTypeOf) h
      · exact inside_infix_delimited (fun _ => inside_infix_of_documentTypeOf) h
      · contradiction
    · exact inside_infix_delimited (fun _ => inside_infix_of_instructionOf) h
    · refine inside_infix_delimited ?_ h
      intro seen hmarkup
      obtain rfl := Except.ok.inj hmarkup
      exact List.nil_infix

end Piece

/-- The event takes up the characters `taken`, which stand behind `before`. -/
structure Event.Covers (event : Event) (before taken : Text) : Prop where
  start : event.start = byteSize before
  stop : event.stop = byteSize (before ++ taken)
  inside : event.kind.inside <:+: taken

/-- Where positions count all bytes in front of an event, each event takes up the characters
between its positions. -/
theorem exists_covers {content before input : Text} {events : List Event}
    (hcontent : content = before ++ input)
    (h : eventsFrom (byteSize before) [] input = .ok events) :
    ∀ event ∈ events, ∃ front taken after,
      content = front ++ (taken ++ after) ∧ event.Covers front taken := by
  intro event hevent
  obtain ⟨front, c, rest, hfront, hverdict, hstart, hstop⟩ := exists_piece hcontent h event hevent
  refine ⟨front, _, _, by rw [Piece.append_rest_first hverdict, hfront], hstart, ?_, ?_⟩
  · rw [hstop, byteSize_append]
  · exact Piece.inside_infix_first hverdict

/-- An event has room for the line feeds of its text between the lines of its positions. -/
theorem Event.Covers.lineAt_add_breaks_le {front taken : Text} {event : Event}
    (h : event.Covers front taken) (after : Text) :
    lineAt (front ++ (taken ++ after)) event.start + breaks event.kind.inside ≤
      lineAt (front ++ (taken ++ after)) event.stop := by
  have hinside := breaks_le_of_sublist h.inside.sublist
  rw [h.start, h.stop, lineAt_byteSize, ← List.append_assoc, lineAt_byteSize, breaks_append]
  omega

/-! ## Strings -/

/-- An event that is shown with no more line feeds than were written has its string on one of
its lines. -/
theorem inOrder_stringsOf_itemAt? {content front taken after : Text} {event : Event}
    (hcontent : content = front ++ (taken ++ after)) (hcovers : event.Covers front taken)
    (hplain : Markup.NoBreakReference referenceValue content) (withStrings : Bool) :
    StringLiteral.InOrder (lineAt content event.start) (lineAt content event.stop)
      (stringsOf (itemAt? content withStrings event).toList) := by
  have hroom := hcovers.lineAt_add_breaks_le after
  rw [← hcontent] at hroom
  have hnone : StringLiteral.InOrder (lineAt content event.start)
      (lineAt content event.stop) [] := Nat.le_trans (Nat.le_add_right _ _) hroom
  have hstring : ∀ shown : Text, breaks shown ≤ breaks event.kind.inside →
      StringLiteral.InOrder (lineAt content event.start) (lineAt content event.stop)
        (stringsOf (if withStrings then
          (Markup.text? shown (lineAt content event.start)).map Item.string
          else none).toList) := by
    intro shown hshown
    cases withStrings with
    | false => exact hnone
    | true =>
        rw [if_pos rfl, stringsOf_toList]
        apply StringLiteral.InOrder.toList (Nat.le_trans (Nat.le_add_right _ _) hroom)
        intro s hs
        obtain ⟨hfirst, hlast⟩ := Markup.line_mem_of_text? hs
        omega
  rw [itemAt?, itemOf?]
  cases hkind : event.kind with
  | comment inside => exact hnone
  | instruction => exact hnone
  | markup => exact hnone
  | characterData inside =>
      apply hstring
      rw [hkind]
      exact Nat.le_refl _
  | text raw =>
      apply hstring
      obtain ⟨before, behind, htaken⟩ := hcovers.inside
      rw [hkind] at htaken ⊢
      have hwritten : content = (front ++ before) ++ (raw ++ (behind ++ after)) := by
        rw [hcontent, ← htaken]
        simp [EventKind.inside]
      rw [hwritten] at hplain
      exact breaks_decode?_le hplain.of_append

theorem inOrder_stringsOf_filterMap {content : Text} {position : Nat} {events : List Event}
    (withStrings : Bool) (h : EventsPlaced content position events)
    (hevents : ∀ event ∈ events, StringLiteral.InOrder (lineAt content event.start)
      (lineAt content event.stop) (stringsOf (itemAt? content withStrings event).toList)) :
    ∃ last, StringLiteral.InOrder (lineAt content position) last
      (stringsOf (events.filterMap (itemAt? content withStrings))) := by
  induction events generalizing position with
  | nil => exact ⟨lineAt content position, Nat.le_refl _⟩
  | cons event later ih =>
      obtain ⟨rfl, -, -, hlater⟩ := h
      obtain ⟨last, hlast⟩ :=
        ih hlater fun next hnext => hevents next (List.mem_cons_of_mem _ hnext)
      have hitems := (hevents event List.mem_cons_self).append hlast
      rw [← stringsOf_append] at hitems
      refine ⟨last, ?_⟩
      rw [List.filterMap_cons]
      cases hitem : itemAt? content withStrings event with
      | none => rwa [hitem] at hitems
      | some item => rwa [hitem] at hitems

/-- The strings of a document without a byte order mark, and without references to line
feeds, stand in the order of their lines. -/
theorem pairwise_line_read {content : Text} {withStrings : Bool} {found : List Item}
    (hmark : dropMark content = content)
    (hplain : Markup.NoBreakReference referenceValue content)
    (h : read content withStrings = .ok found) :
    (stringsOf found).Pairwise fun s later => s.line ≤ later.line := by
  obtain ⟨all, hevents, hplaced, rfl⟩ := exists_events_of_read h
  rw [events, hmark] at hevents
  obtain ⟨last, hlast⟩ := inOrder_stringsOf_filterMap withStrings hplaced
    (fun event hevent => by
      obtain ⟨front, taken, after, hcontent, hcovers⟩ :=
        @exists_covers content [] content all rfl hevents event hevent
      exact inOrder_stringsOf_itemAt? hcontent hcovers hplain withStrings)
  exact hlast.pairwise_line

end Xml

end LicenseText
