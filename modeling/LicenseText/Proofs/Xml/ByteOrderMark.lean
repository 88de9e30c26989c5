import LicenseText.Proofs.Xml.RoundTrip

/-!
# Byte order marks in XML documents

A byte order mark belongs to no event and has no place in positions. A document is
therefore cut into the same events with a mark and without one, but in a document with a
mark the line of an event, and the slice that holds an instruction, are taken three bytes
early. An event is read the same way only when this makes no difference to it
(`Event.Steady`). To an instruction it does, unless nothing but blanks stands in it: the
slice loses one character of the instruction at most, and its two delimiters, which are
not recognized, are more than that.
-/

namespace LicenseText

namespace Xml

open Text

/-! ## Slices that are taken early -/

/-- A slice that is taken as many bytes early as stand in front of the content ends that many
bytes before the part does. -/
theorem exists_of_early_slice (lead : Text) {before part after slice : Text}
    (h : byteSlice? (lead ++ (before ++ (part ++ after))) (byteSize before)
      (byteSize before + byteSize part) = some slice) :
    ∃ moved cut, moved ++ part = slice ++ cut ∧ byteSize cut = byteSize lead := by
  obtain ⟨front, back, hcontent, hfront, hstop⟩ := exists_of_byteSlice? h
  have hleft : front ++ (slice ++ back) = (lead ++ before) ++ (part ++ after) := by
    rw [← hcontent, List.append_assoc]
  obtain ⟨moved, hmoved, hright⟩ := exists_middle_of_byteSize_le hleft (by
    rw [byteSize_append]
    omega)
  rw [← List.append_assoc] at hright
  obtain ⟨cut, hcut, -⟩ := exists_middle_of_byteSize_le hright (by
    rw [byteSize_append]
    omega)
  have hsize := congrArg byteSize hmoved
  have hcutSize := congrArg byteSize hcut
  simp only [byteSize_append] at hsize hcutSize
  exact ⟨moved, cut, hcut, by omega⟩

section Instruction

variable {before inside after slice : Text}

/-- What is left of an instruction in a slice that is taken early. -/
theorem exists_of_early_instruction
    (h : byteSlice? ('\uFEFF' :: (before ++ ((Node.instruction inside).write ++ after)))
      (byteSize before) (byteSize before + byteSize (Node.instruction inside).write) =
        some slice) :
    ∃ moved kept cut, slice = moved ++ '<' :: kept ∧ '?' :: inside = kept ++ cut ∧
      cut.length ≤ 1 := by
  have hmark : byteSize ['\uFEFF'] = 3 := rfl
  have hend : byteSize ['?', '>'] = 2 := rfl
  obtain ⟨moved, early, hearly, hsize⟩ := exists_of_early_slice ['\uFEFF'] h
  have hwritten : slice ++ early = (moved ++ ['<'] ++ '?' :: inside) ++ ['?', '>'] := by
    rw [← hearly, Node.write]
    simp
  have htotal := congrArg byteSize hwritten
  simp only [byteSize_append] at htotal
  obtain ⟨cut, hcut, hearlyCut⟩ := exists_middle_of_byteSize_le hwritten (by
    simp only [byteSize_append]
    omega)
  have hcutSize := congrArg byteSize hearlyCut
  have hcutLength := length_le_byteSize cut
  rw [byteSize_append] at hcutSize
  have hbody := byteSize_cons '?' inside
  have hquestion : '?'.utf8Size = 1 := rfl
  obtain ⟨kept, hkept, hinside⟩ := exists_middle_of_byteSize_le hcut (by
    have hsum := congrArg byteSize hcut
    simp only [byteSize_append] at hsum ⊢
    omega)
  exact ⟨moved, kept, cut, by simpa using hkept, hinside, by omega⟩

/-- A slice that is taken early does not end as an instruction does, since the end of the
instruction occurs nowhere else in it. -/
theorem trim_ne_of_early {moved kept cut front : Text} (hfits : (Node.instruction inside).Fits)
    (hinside : '?' :: inside = kept ++ cut) :
    (moved ++ '<' :: kept).trim ≠ front ++ ['?', '>'] := by
  intro h
  have hnot : ¬['?', '>'] <:+: '<' :: kept := by
    intro hinfix
    have hwhole : ['?', '>'] <:+: '<' :: '?' :: inside := by
      rw [hinside]
      exact hinfix.trans (List.prefix_append ('<' :: kept) cut).isInfix
    rcases List.infix_cons_iff.mp hwhole with hprefix | hinfix
    · simp at hprefix
    · rcases List.infix_cons_iff.mp hinfix with hprefix | hinfix
      · obtain ⟨behind, hbehind⟩ := (List.cons_prefix_cons.mp hprefix).2
        exact hfits.2 (by simp [← hbehind])
      · exact hfits.1 hinfix
  obtain ⟨lead, trail, hslice, -, htrail⟩ := exists_trim_parts (moved ++ '<' :: kept)
  rw [h, List.append_assoc, ← List.append_assoc] at hslice
  rcases List.append_eq_append_iff.mp hslice with ⟨more, -, hkept⟩ | ⟨more, -, hkept⟩
  · exact hnot ⟨more, trail, by simp [hkept]⟩
  · have hmem : '<' ∈ ['?', '>'] ++ trail := by simp [hkept]
    rcases List.mem_append.mp hmem with hmem | hmem
    · simp at hmem
    · exact absurd (htrail '<' hmem) (by decide)

/-- What is reported of a slice that does not end as an instruction does. -/
theorem instructionBody_of_slice {content : Text} {start stop : Nat}
    (hslice : content.byteSlice? start stop = some slice)
    (hend : ∀ front, slice.trim ≠ front ++ ['?', '>']) :
    instructionBody content start stop = slice.trim := by
  rw [instructionBody, hslice, Option.getD_some]
  split
  case h_1 inside hinside =>
    obtain ⟨rest, hopen, hclose⟩ := Option.bind_eq_some_iff.mp hinside
    have hwritten := List.append_eq_of_isPrefixOf?_eq_some hopen
    rw [← List.append_eq_of_isSuffixOf?_eq_some hclose, ← List.append_assoc] at hwritten
    exact absurd hwritten.symm (hend _)
  case h_2 => rfl

theorem instructionBody_of_no_slice {content : Text} {start stop : Nat}
    (hslice : content.byteSlice? start stop = none) :
    instructionBody content start stop = [] := by
  rw [instructionBody, hslice]
  rfl

/-- An instruction is reported with the same lines behind a byte order mark exactly when it
has one line of blanks, and the slice that is taken early is none. -/
theorem lines_instructionBody_mark_iff (hfits : (Node.instruction inside).Fits) :
    let content := before ++ ((Node.instruction inside).write ++ after)
    let start := byteSize before
    let stop := byteSize before + byteSize (Node.instruction inside).write
    ((instructionBody ('\uFEFF' :: content) start stop).splitOn '\n').map trim =
        (inside.splitOn '\n').map trim ↔
      byteSlice? ('\uFEFF' :: content) start stop = none ∧ inside.IsBlank ∧ '\n' ∉ inside := by
  intro content start stop
  cases hslice : byteSlice? ('\uFEFF' :: content) start stop with
  | none =>
      rw [instructionBody_of_no_slice hslice, ← Markup.map_trim_splitOn_eq_iff, eq_comm]
      exact (and_iff_right rfl).symm
  | some slice =>
      obtain ⟨moved, kept, cut, rfl, hinside, hcut⟩ := exists_of_early_instruction hslice
      rw [instructionBody_of_slice hslice fun _ => trim_ne_of_early hfits hinside]
      constructor
      · intro hlines
        have hcount := congrArg (fun lines => solidCount lines.flatten) hlines
        rw [solidCount_lines, solidCount_lines, solidCount_trim, solidCount_append] at hcount
        have hopen : solidCount ('<' :: kept) = solidCount kept + 1 :=
          List.countP_cons_of_pos (by decide)
        have hquestion : solidCount ('?' :: inside) = solidCount inside + 1 :=
          List.countP_cons_of_pos (by decide)
        have hlength := solidCount_le_length cut
        rw [hinside, solidCount_append] at hquestion
        omega
      · rintro ⟨hnone, -⟩
        contradiction

end Instruction

/-! ## Events -/

theorem lineAt_mark (t : Text) (offset : Nat) :
    lineAt ('\uFEFF' :: t) offset = lineAt t (offset - 3) := by
  rcases Nat.eq_zero_or_pos offset with rfl | hpos
  · simp
  · have hsize : '\uFEFF'.utf8Size = 3 := rfl
    rw [lineAt, lineAt, takeBytes_cons hpos, breaks_cons, if_neg (by decide), hsize,
      Nat.add_zero]

/-- A byte order mark in front of the content makes no difference to the event: no line ends
in the three bytes in front of the event, and what is an instruction holds one line of
blanks, of which the early slice is none. -/
structure Event.Steady (content : Text) (event : Event) : Prop where
  line : lineAt content (event.start - 3) = lineAt content event.start
  body : event.kind = .instruction →
    byteSlice? ('\uFEFF' :: content) event.start event.stop = none ∧
      (instructionBody content event.start event.stop).IsBlank ∧
      '\n' ∉ instructionBody content event.start event.stop

instance (content : Text) (event : Event) : Decidable (event.Steady content) :=
  decidable_of_iff
    (lineAt content (event.start - 3) = lineAt content event.start ∧
      (event.kind = .instruction →
        byteSlice? ('\uFEFF' :: content) event.start event.stop = none ∧
          (instructionBody content event.start event.stop).IsBlank ∧
          '\n' ∉ instructionBody content event.start event.stop))
    ⟨fun h => ⟨h.1, h.2⟩, fun h => ⟨h.line, h.body⟩⟩

/-- An instruction among the events of a document is an instruction as it is written. -/
theorem exists_of_instruction {content : Text} {all : List Event}
    (h : eventsFrom 0 [] content = .ok all) {event : Event} (hevent : event ∈ all)
    (hkind : event.kind = .instruction) :
    ∃ before inside after, (Node.instruction inside).Fits ∧
      content = before ++ ((Node.instruction inside).write ++ after) ∧
      event.start = byteSize before ∧
      event.stop = byteSize before + byteSize (Node.instruction inside).write := by
  obtain ⟨front, c, rest, hcontent, hverdict, hstart, hstop⟩ :=
    @exists_piece content [] content all rfl h event hevent
  have happend := Piece.append_rest_first hverdict
  rw [hkind] at hverdict
  obtain ⟨inside, hfits, htaken⟩ := Piece.taken_of_instruction hverdict
  rw [htaken] at happend hstop
  exact ⟨front, inside, _, hfits, by rw [happend, hcontent], hstart, hstop⟩

section Items

variable {content : Text} {all : List Event} {event : Event}

theorem text?_map_eq_iff (raw : Text) (line other : Nat) :
    (Markup.text? raw other).map Item.string = (Markup.text? raw line).map Item.string ↔
      (((Markup.text? raw line).map Item.string).isSome = true → other = line) := by
  rw [Markup.text?, Markup.text?]
  split
  · simp
  · simp

theorem lines_instructionBody_iff (h : eventsFrom 0 [] content = .ok all)
    (hevent : event ∈ all) (hkind : event.kind = .instruction) :
    ((instructionBody ('\uFEFF' :: content) event.start event.stop).splitOn '\n').map trim =
        ((instructionBody content event.start event.stop).splitOn '\n').map trim ↔
      byteSlice? ('\uFEFF' :: content) event.start event.stop = none ∧
        (instructionBody content event.start event.stop).IsBlank ∧
        '\n' ∉ instructionBody content event.start event.stop := by
  obtain ⟨before, inside, after, hfits, rfl, hstart, hstop⟩ :=
    exists_of_instruction h hevent hkind
  have hbody : instructionBody (before ++ ((Node.instruction inside).write ++ after))
      (byteSize before) (byteSize before + byteSize (Node.instruction inside).write) = inside :=
    instructionBody_append before inside after
  rw [hstart, hstop, hbody]
  exact lines_instructionBody_mark_iff hfits

/-- An event is read the same way behind a byte order mark exactly when it is steady, or is
not reported at all. -/
theorem itemAt?_mark_iff (h : eventsFrom 0 [] content = .ok all) (hevent : event ∈ all)
    (withStrings : Bool) :
    itemAt? ('\uFEFF' :: content) withStrings event = itemAt? content withStrings event ↔
      ((itemAt? content withStrings event).isSome = true → event.Steady content) := by
  have hsteady : event.kind ≠ .instruction →
      (event.Steady content ↔ lineAt content (event.start - 3) = lineAt content event.start) := by
    intro hkind
    exact ⟨Event.Steady.line, fun hline => ⟨hline, fun h => absurd h hkind⟩⟩
  rw [itemAt?, itemAt?, lineAt_mark, itemOf?, itemOf?]
  cases hkind : event.kind with
  | comment inside =>
      rw [hsteady (by simp [hkind])]
      simp [Markup.comment_eq_iff]
  | text raw =>
      rw [hsteady (by simp [hkind])]
      cases withStrings with
      | false => simp
      | true => exact text?_map_eq_iff _ _ _
  | characterData inside =>
      rw [hsteady (by simp [hkind])]
      cases withStrings with
      | false => simp
      | true => exact text?_map_eq_iff _ _ _
  | markup => simp
  | instruction =>
      dsimp only
      rw [Option.some_inj, Item.comment.injEq, Markup.comment_eq_iff,
        lines_instructionBody_iff h hevent hkind]
      constructor
      · rintro ⟨hbody, hline⟩ -
        exact ⟨hline, fun _ => hbody⟩
      · intro hsteady
        exact ⟨(hsteady rfl).body hkind, (hsteady rfl).line⟩

end Items

/-- Only the line and the slice of an instruction depend on positions. -/
theorem map_text_itemAt?_mark (content : Text) {event : Event} (withStrings : Bool)
    (hkind : event.kind ≠ .instruction) :
    (itemAt? ('\uFEFF' :: content) withStrings event).map Item.text =
      (itemAt? content withStrings event).map Item.text := by
  have hstring : ∀ raw line other, ((Markup.text? raw line).map Item.string).map Item.text =
      ((Markup.text? raw other).map Item.string).map Item.text := by
    intro raw line other
    rw [Markup.text?, Markup.text?]
    split <;> rfl
  rw [itemAt?, itemAt?, itemOf?, itemOf?]
  cases h : event.kind with
  | comment inside => rfl
  | instruction => exact absurd h hkind
  | markup => rfl
  | text raw =>
      cases withStrings with
      | false => rfl
      | true => exact hstring _ _ _
  | characterData inside =>
      cases withStrings with
      | false => rfl
      | true => exact hstring _ _ _

theorem isSome_itemAt?_mark (content : Text) (withStrings : Bool) (event : Event) :
    (itemAt? ('\uFEFF' :: content) withStrings event).isSome =
      (itemAt? content withStrings event).isSome := by
  by_cases hkind : event.kind = .instruction
  · rw [itemAt?, itemAt?, itemOf?, itemOf?, hkind]
    rfl
  · have htext := congrArg Option.isSome (map_text_itemAt?_mark content withStrings hkind)
    rwa [Option.isSome_map, Option.isSome_map] at htext

/-! ## Documents -/

/-- Where two functions report the same members of a list, they make the same list of them
exactly when they agree on all of them. -/
theorem filterMap_eq_filterMap_iff {α β : Type} {f g : α → Option β} {l : List α}
    (h : ∀ a ∈ l, (f a).isSome = (g a).isSome) :
    l.filterMap f = l.filterMap g ↔ ∀ a ∈ l, f a = g a := by
  constructor
  · intro heq
    induction l with
    | nil => simp
    | cons a l ih =>
        obtain ⟨ha, hl⟩ := List.forall_mem_cons.mp h
        cases hf : f a with
        | none =>
            have hg : g a = none := by simpa [hf] using ha
            rw [List.filterMap_cons_none hf, List.filterMap_cons_none hg] at heq
            exact List.forall_mem_cons.mpr ⟨hf.trans hg.symm, ih hl heq⟩
        | some b =>
            obtain ⟨b', hg⟩ := Option.isSome_iff_exists.mp (by simpa [hf] using ha)
            rw [List.filterMap_cons_some hf, List.filterMap_cons_some hg] at heq
            obtain ⟨rfl, htail⟩ := List.cons.inj heq
            exact List.forall_mem_cons.mpr ⟨hf.trans hg.symm, ih hl htail⟩
  · intro heq
    exact List.filterMap_congr heq

/-- A document behind a byte order mark is refused exactly when the document itself is, and
at the same place. Otherwise it has the same items exactly when every event that is reported
is steady; and where no event is an instruction, the items have the same texts at least. -/
theorem read_mark {content : Text} (hmark : content.head? ≠ some '\uFEFF')
    (withStrings : Bool) :
    (∃ failure, read content withStrings = .error failure ∧
        read ('\uFEFF' :: content) withStrings = .error failure) ∨
      ∃ all plain marked, events content = .ok all ∧ read content withStrings = .ok plain ∧
        read ('\uFEFF' :: content) withStrings = .ok marked ∧
        ((∀ event ∈ all, event.kind ≠ .instruction) →
          marked.map Item.text = plain.map Item.text) ∧
        (marked = plain ↔ ∀ event ∈ all,
          (itemAt? content withStrings event).isSome = true → event.Steady content) := by
  have hsame : events ('\uFEFF' :: content) = events content := by
    rw [events, events, dropMark_eq_self hmark]
    rfl
  rw [read, read, hsame]
  cases hevents : events content with
  | error failure => exact .inl ⟨failure, rfl, rfl⟩
  | ok all =>
      have hmarked := itemsOf_eq_filterMap (eventsPlaced_events (hsame.trans hevents)) withStrings
      have hplain := itemsOf_eq_filterMap (eventsPlaced_events hevents) withStrings
      refine .inr ⟨all, _, _, rfl, rfl, rfl, ?_, ?_⟩
      · intro hkind
        rw [hmarked, hplain, List.map_filterMap, List.map_filterMap]
        exact List.filterMap_congr fun event hevent =>
          map_text_itemAt?_mark content withStrings (hkind event hevent)
      · rw [events, dropMark_eq_self hmark] at hevents
        rw [hmarked, hplain,
          filterMap_eq_filterMap_iff fun event _ => isSome_itemAt?_mark content withStrings event]
        exact forall₂_congr fun event hevent => itemAt?_mark_iff hevents hevent withStrings

/-- Blanks stand in front of this comment on its line, and a byte order mark makes no
difference to it. -/
theorem read_mark_of_note :
    read ('\uFEFF' :: "<p>\n   <!-- x --></p>".toList) true =
      read "<p>\n   <!-- x --></p>".toList true := by
  have hevents : events "<p>\n   <!-- x --></p>".toList =
      .ok [⟨0, 3, .markup⟩, ⟨3, 7, .text "\n   ".toList⟩, ⟨7, 17, .comment " x ".toList⟩,
        ⟨17, 21, .markup⟩] := by decide +kernel
  rcases @read_mark "<p>\n   <!-- x --></p>".toList (by decide) true with
    ⟨failure, hrefused, -⟩ | ⟨all, plain, marked, hall, hplain, hmarked, -, hiff⟩
  · rw [read, hevents] at hrefused
    contradiction
  · obtain rfl := Except.ok.inj (hall.symm.trans hevents)
    rw [hplain, hmarked, hiff.mpr (by decide)]

/-- A declaration behind a byte order mark is reported with the mark, with its opening
delimiter, and without its last character. -/
theorem read_mark_ne_of_declaration :
    "<?xml version='1.0'?>".toList.head? ≠ some '\uFEFF' ∧
      read "<?xml version='1.0'?>".toList true =
        .ok [.comment (.onLine "xml version='1.0'".toList 1)] ∧
      read ('\uFEFF' :: "<?xml version='1.0'?>".toList) true =
        .ok [.comment (.onLine "\uFEFF<?xml version='1.0".toList 1)] ∧
      read ('\uFEFF' :: "<?xml version='1.0'?>".toList) true ≠
        read "<?xml version='1.0'?>".toList true := by
  have hplain : read "<?xml version='1.0'?>".toList true =
      .ok [.comment (.onLine "xml version='1.0'".toList 1)] := by decide +kernel
  have hmarked : read ('\uFEFF' :: "<?xml version='1.0'?>".toList) true =
      .ok [.comment (.onLine "\uFEFF<?xml version='1.0".toList 1)] := by decide +kernel
  refine ⟨by decide, hplain, hmarked, ?_⟩
  rw [hplain, hmarked]
  intro heq
  exact absurd (Except.ok.inj heq) (by decide)

end Xml

end LicenseText
