import LicenseText.Proofs.Item.Spans
import LicenseText.Proofs.Markup
import LicenseText.Proofs.Text.Bytes
import LicenseText.Proofs.Xml.Piece
import LicenseText.Xml.Reader

/-!
# The comments of an XML document stand in order

The events of a document follow one another, and the lines of an event make room for the
line feeds in what is reported of it. A byte order mark shifts the positions of all
events to the front, by no more bytes than the closing delimiter of a comment has, so
even there a comment ends within the lines of its event.
-/

namespace LicenseText

namespace Xml

open Text

/-! ## Events -/

theorem eventsFrom_eq_map (position : Nat) (found : List Event) (input : Text) :
    eventsFrom position found input =
      (eventsFrom position [] input).map (found.reverse ++ ·) := by
  induction hlength : input.length using Nat.strongRecOn generalizing position found input with
  | ind length ih =>
      subst hlength
      cases input with
      | nil => simp [eventsFrom, Except.map]
      | cons c rest =>
          have hshorter := Piece.length_rest_first c rest
          rw [eventsFrom, eventsFrom]
          cases hverdict : (Piece.first c rest).verdict with
          | error fault => rfl
          | ok kind =>
              dsimp only
              rw [ih _ hshorter _ (_ :: found) _ rfl, ih _ hshorter _ [_] _ rfl]
              cases eventsFrom (position + (Piece.first c rest).taken.byteSize) []
                (Piece.first c rest).rest with
              | error failure => rfl
              | ok later => simp [Except.map]

theorem eventsFrom_cons {c : Char} {rest : Text} {kind : EventKind}
    (h : (Piece.first c rest).verdict = .ok kind) (position : Nat) :
    eventsFrom position [] (c :: rest) =
      (eventsFrom (position + byteSize (Piece.first c rest).taken) []
        (Piece.first c rest).rest).map
        (⟨position, position + byteSize (Piece.first c rest).taken, kind⟩ :: ·) := by
  rw [eventsFrom, h]
  exact eventsFrom_eq_map _ [_] _

theorem eventsFrom_cons_eq_ok {c : Char} {rest : Text} {position : Nat}
    {events : List Event} (h : eventsFrom position [] (c :: rest) = .ok events) :
    ∃ kind later, (Piece.first c rest).verdict = .ok kind ∧
      eventsFrom (position + byteSize (Piece.first c rest).taken) []
        (Piece.first c rest).rest = .ok later ∧
      events =
        ⟨position, position + byteSize (Piece.first c rest).taken, kind⟩ :: later := by
  cases hverdict : (Piece.first c rest).verdict with
  | error fault =>
      rw [eventsFrom, hverdict] at h
      contradiction
  | ok kind =>
      rw [eventsFrom_cons hverdict] at h
      cases hlater : eventsFrom (position + byteSize (Piece.first c rest).taken) []
          (Piece.first c rest).rest with
      | error failure =>
          rw [hlater] at h
          contradiction
      | ok later =>
          rw [hlater] at h
          exact ⟨kind, later, rfl, rfl, (Except.ok.inj h).symm⟩

/-- Where positions count all bytes in front of an event, each event is a piece of the
content. -/
theorem exists_piece {content before input : Text} {events : List Event}
    (hcontent : content = before ++ input)
    (h : eventsFrom (byteSize before) [] input = .ok events) :
    ∀ event ∈ events, ∃ front c rest, content = front ++ c :: rest ∧
      (Piece.first c rest).verdict = .ok event.kind ∧ event.start = byteSize front ∧
      event.stop = byteSize front + byteSize (Piece.first c rest).taken := by
  induction hlength : input.length using Nat.strongRecOn generalizing before input events with
  | ind length ih =>
      subst hlength
      cases input with
      | nil =>
          rw [eventsFrom] at h
          obtain rfl : [] = events := Except.ok.inj h
          simp
      | cons c rest =>
          obtain ⟨kind, later, hverdict, hlater, rfl⟩ := eventsFrom_cons_eq_ok h
          have hpiece := Piece.append_rest_first hverdict
          intro event hevent
          rcases List.mem_cons.mp hevent with rfl | hevent
          · exact ⟨before, c, rest, hcontent, hverdict, rfl, rfl⟩
          · have hbefore : content =
                (before ++ (Piece.first c rest).taken) ++ (Piece.first c rest).rest := by
              rw [List.append_assoc, hpiece, hcontent]
            rw [← byteSize_append] at hlater
            exact ih _ (Piece.length_rest_first c rest) hbefore hlater rfl event hevent

/-- From the position on, the events follow one another, and each comment among them has
no more line feeds than lie between its positions. -/
def EventsPlaced (content : Text) : Nat → List Event → Prop
  | _, [] => True
  | position, event :: later =>
    event.start = position ∧ event.start ≤ event.stop ∧
      (∀ inside, event.kind = .comment inside →
        lineAt content event.start + breaks inside ≤ lineAt content event.stop) ∧
      EventsPlaced content event.stop later

/-- A comment that stands behind `before` has no more line feeds than lie between its
positions, also if these are up to three bytes early. -/
theorem lineAt_of_comment {before inside after : Text} {position : Nat}
    (hposition : position ≤ byteSize before) (hshift : byteSize before ≤ position + 3) :
    let taken := ['<', '!', '-', '-'] ++ inside ++ ['-', '-', '>']
    lineAt (before ++ (taken ++ after)) position + breaks inside ≤
      lineAt (before ++ (taken ++ after)) (position + byteSize taken) := by
  intro taken
  have hsize : byteSize taken = byteSize (['<', '!', '-', '-'] ++ inside) + 3 :=
    byteSize_append _ _
  have hstart := lineAt_append_le hposition (taken ++ after)
  have hstop : 1 + breaks (before ++ (['<', '!', '-', '-'] ++ inside)) ≤
      lineAt (before ++ (taken ++ after)) (position + byteSize taken) := by
    have hsplit : before ++ (taken ++ after) =
        (before ++ (['<', '!', '-', '-'] ++ inside)) ++ (['-', '-', '>'] ++ after) := by
      simp [taken]
    rw [hsplit]
    apply le_lineAt_append
    rw [byteSize_append]
    omega
  rw [breaks_append, breaks_append] at hstop
  omega

theorem eventsPlaced_eventsFrom {content before input : Text} {position : Nat}
    {events : List Event} (hcontent : content = before ++ input)
    (hposition : position ≤ byteSize before) (hshift : byteSize before ≤ position + 3)
    (h : eventsFrom position [] input = .ok events) :
    EventsPlaced content position events := by
  induction hlength : input.length using Nat.strongRecOn
      generalizing before input position events with
  | ind length ih =>
      subst hlength
      cases input with
      | nil =>
          rw [eventsFrom] at h
          obtain rfl : [] = events := Except.ok.inj h
          trivial
      | cons c rest =>
          obtain ⟨kind, later, hverdict, hlater, rfl⟩ := eventsFrom_cons_eq_ok h
          have hpiece := Piece.append_rest_first hverdict
          refine ⟨rfl, Nat.le_add_right _ _, ?_, ?_⟩
          · rintro inside rfl
            have htaken := Piece.taken_of_comment hverdict
            dsimp only
            rw [hcontent, ← hpiece, htaken]
            exact lineAt_of_comment hposition hshift
          · have hbefore : content =
                (before ++ (Piece.first c rest).taken) ++ (Piece.first c rest).rest := by
              rw [List.append_assoc, hpiece, hcontent]
            refine ih _ (Piece.length_rest_first c rest) hbefore ?_ ?_ hlater rfl
            · rw [byteSize_append]
              exact Nat.add_le_add_right hposition _
            · rw [byteSize_append]
              dsimp only
              omega

theorem exists_dropMark (content : Text) :
    ∃ mark, content = mark ++ dropMark content ∧ byteSize mark ≤ 3 := by
  rw [dropMark.eq_def]
  split
  · exact ⟨['\uFEFF'], rfl, by decide⟩
  · exact ⟨[], rfl, Nat.zero_le _⟩

theorem eventsPlaced_events {content : Text} {found : List Event}
    (h : events content = .ok found) : EventsPlaced content 0 found := by
  obtain ⟨mark, hcontent, hmark⟩ := exists_dropMark content
  exact eventsPlaced_eventsFrom hcontent (Nat.zero_le _) (by omega) h

/-! ## Items -/

/-- The item that an event amounts to, on the line of its position. -/
def itemAt? (content : Text) (withStrings : Bool) (event : Event) : Option Item :=
  itemOf? content withStrings event (lineAt content event.start)

theorem foldl_step {content : Text} {withStrings : Bool} {position : Nat}
    {events : List Event} {progress : Progress}
    (hevents : EventsPlaced content position events)
    {offset : Nat} (hoffset : offset ≤ position)
    (hcursor : progress.cursor.StandsAt content offset) :
    (events.foldl (Progress.step content withStrings) progress).found.reverse =
      progress.found.reverse ++ events.filterMap (itemAt? content withStrings) := by
  induction events generalizing position offset progress with
  | nil => simp
  | cons event later ih =>
      obtain ⟨rfl, hspan, -, hlater⟩ := hevents
      have hadvanced := hcursor.advance hoffset
      rw [List.foldl_cons, ih hlater hspan hadvanced, Progress.step, hadvanced.line,
        List.filterMap_cons, itemAt?]
      cases itemOf? content withStrings event (lineAt content event.start) with
      | none => rfl
      | some item => simp

/-- The items of a document are those of its events, each on the line of its position. -/
theorem itemsOf_eq_filterMap {content : Text} {events : List Event}
    (h : EventsPlaced content 0 events) (withStrings : Bool) :
    itemsOf content withStrings events =
      events.filterMap (itemAt? content withStrings) := by
  rw [itemsOf, foldl_step h (Nat.le_refl 0) (LineCursor.standsAt_start content)]
  rfl

/-- The items of a document that can be read are those of its events. -/
theorem exists_events_of_read {content : Text} {withStrings : Bool} {found : List Item}
    (h : read content withStrings = .ok found) :
    ∃ all, events content = .ok all ∧ EventsPlaced content 0 all ∧
      found = all.filterMap (itemAt? content withStrings) := by
  rw [read] at h
  cases hevents : events content with
  | error failure =>
      rw [hevents] at h
      contradiction
  | ok all =>
      rw [hevents] at h
      have hplaced := eventsPlaced_events hevents
      refine ⟨all, rfl, hplaced, ?_⟩
      rw [← itemsOf_eq_filterMap hplaced]
      exact (Except.ok.inj h).symm

/-! ## Comments -/

theorem breaks_instructionBody (content : Text) {start stop : Nat} (h : start ≤ stop) :
    lineAt content start + breaks (instructionBody content start stop) ≤
      lineAt content stop := by
  have hslice : lineAt content start + breaks ((content.byteSlice? start stop).getD []) ≤
      lineAt content stop := by
    cases heq : content.byteSlice? start stop with
    | none => exact lineAt_mono h
    | some slice => exact Nat.le_of_eq (lineAt_of_byteSlice? heq)
  have htrim := breaks_le_of_sublist
    (trim_sublist ((content.byteSlice? start stop).getD []))
  have hbody : breaks (instructionBody content start stop) ≤
      breaks ((content.byteSlice? start stop).getD []).trim := by
    rw [instructionBody]
    split
    case h_1 inside hinside =>
      obtain ⟨rest, hopen, hclose⟩ := Option.bind_eq_some_iff.mp hinside
      rw [← List.append_eq_of_isPrefixOf?_eq_some hopen,
        ← List.append_eq_of_isSuffixOf?_eq_some hclose]
      simp only [breaks_append]
      omega
    case h_2 => exact Nat.le_refl _
  omega

theorem inOrder_itemAt? {content : Text} {event : Event} (withStrings : Bool)
    (hspan : event.start ≤ event.stop)
    (hcomment : ∀ inside, event.kind = .comment inside →
      lineAt content event.start + breaks inside ≤ lineAt content event.stop) :
    Comment.InOrder (lineAt content event.start) (lineAt content event.stop)
      (commentsOf (itemAt? content withStrings event).toList) := by
  have hnone : Comment.InOrder (lineAt content event.start)
      (lineAt content event.stop) [] := lineAt_mono hspan
  have hnode : ∀ raw, lineAt content event.start + breaks raw ≤
        lineAt content event.stop →
      Comment.InOrder (lineAt content event.start) (lineAt content event.stop)
        [Markup.comment raw (lineAt content event.start)] := by
    intro raw hraw
    refine .single (Nat.le_of_eq (Markup.startLine_comment _ _).symm) ?_ ?_
    · rw [Markup.startLine_comment, Markup.endLine_comment]
      omega
    · rw [Markup.endLine_comment]
      exact hraw
  have hstring : ∀ literal? : Option StringLiteral,
      Comment.InOrder (lineAt content event.start) (lineAt content event.stop)
        (commentsOf
          (if withStrings then literal?.map Item.string else none).toList) := by
    intro literal?
    cases withStrings with
    | false => exact hnone
    | true => cases literal? <;> exact hnone
  rw [itemAt?, itemOf?]
  cases hkind : event.kind with
  | comment inside => exact hnode inside (hcomment inside hkind)
  | instruction => exact hnode _ (breaks_instructionBody content hspan)
  | markup => exact hnone
  | text raw => exact hstring (Markup.text? _ _)
  | characterData inside => exact hstring (Markup.text? _ _)

theorem inOrder_filterMap {content : Text} {position : Nat} {events : List Event}
    (withStrings : Bool) (h : EventsPlaced content position events) :
    Comment.InOrder (lineAt content position) (1 + breaks content)
      (commentsOf (events.filterMap (itemAt? content withStrings))) := by
  induction events generalizing position with
  | nil => exact lineAt_le content position
  | cons event later ih =>
      obtain ⟨rfl, hspan, hcomment, hlater⟩ := h
      have hitems := (inOrder_itemAt? withStrings hspan hcomment).append (ih hlater)
      rw [← commentsOf_append] at hitems
      rw [List.filterMap_cons]
      cases hitem : itemAt? content withStrings event with
      | none => rwa [hitem] at hitems
      | some item => rwa [hitem] at hitems

/-- The comments of an XML document are in order, on the lines of the document. -/
theorem inOrder_read {content : Text} {withStrings : Bool} {found : List Item}
    (h : read content withStrings = .ok found) :
    Comment.InOrder 1 (1 + breaks content) (commentsOf found) := by
  obtain ⟨all, -, hplaced, rfl⟩ := exists_events_of_read h
  have horder := inOrder_filterMap withStrings hplaced
  rwa [lineAt_zero] at horder

theorem fillsSpan_of_itemAt? {content : Text} {withStrings : Bool} {event : Event}
    {c : Comment} (h : itemAt? content withStrings event = some (.comment c)) :
    c.FillsSpan := by
  have hnode : ∀ raw line, some (Item.comment (Markup.comment raw line)) = some (.comment c) →
      c.FillsSpan := by
    intro raw line heq
    rw [← Item.comment.inj (Option.some.inj heq)]
    exact Markup.fillsSpan_comment raw line
  have hstring : ∀ literal? : Option StringLiteral,
      ¬(if withStrings then literal?.map Item.string else none) = some (.comment c) := by
    intro literal?
    cases withStrings <;> cases literal? <;> simp
  rw [itemAt?, itemOf?] at h
  cases hkind : event.kind with
  | comment inside => exact hnode _ _ (by rwa [hkind] at h)
  | instruction => exact hnode _ _ (by rwa [hkind] at h)
  | markup => exact absurd (by rwa [hkind] at h) (Option.some_ne_none (Item.comment c)).symm
  | text raw => exact absurd (by rwa [hkind] at h) (hstring (Markup.text? _ _))
  | characterData inside => exact absurd (by rwa [hkind] at h) (hstring (Markup.text? _ _))

/-- The comments of an XML document have as many lines as they span. -/
theorem fillsSpan_read {content : Text} {withStrings : Bool} {found : List Item}
    (h : read content withStrings = .ok found) : ∀ c ∈ commentsOf found, c.FillsSpan := by
  obtain ⟨all, -, -, rfl⟩ := exists_events_of_read h
  intro c hc
  obtain ⟨event, -, hitem⟩ := List.mem_filterMap.mp (mem_commentsOf.mp hc)
  exact fillsSpan_of_itemAt? hitem

end Xml

end LicenseText
