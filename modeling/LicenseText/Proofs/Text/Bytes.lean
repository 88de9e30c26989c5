import LicenseText.Proofs.Text.Breaks
import LicenseText.Text.Bytes

/-!
# Lines of byte positions

`lineAt` is the line of a byte position: one more than the line feeds that start in
front of it. A cursor that walks on to larger and larger positions finds exactly these
lines, and a slice between two positions has the line feeds that lie between their
lines.
-/

namespace LicenseText

namespace Text

/-! ## Sizes -/

theorem foldl_byteSize (t : Text) (size : Nat) :
    t.foldl (fun size c => size + c.utf8Size) size = size + byteSize t := by
  induction t generalizing size with
  | nil => rfl
  | cons c t ih =>
      rw [byteSize, List.foldl_cons, List.foldl_cons, ih, ih (0 + c.utf8Size)]
      omega

@[simp] theorem byteSize_nil : byteSize [] = 0 := rfl

theorem byteSize_cons (c : Char) (t : Text) :
    byteSize (c :: t) = c.utf8Size + byteSize t := by
  rw [byteSize, List.foldl_cons, foldl_byteSize, Nat.zero_add]

@[simp] theorem byteSize_append (s t : Text) :
    byteSize (s ++ t) = byteSize s + byteSize t := by
  rw [byteSize, List.foldl_append, foldl_byteSize, ← byteSize]

theorem length_le_byteSize (t : Text) : t.length ≤ byteSize t := by
  induction t with
  | nil => exact Nat.le_refl _
  | cons c t ih =>
      have hpos := c.utf8Size_pos
      rw [List.length_cons, byteSize_cons]
      omega

/-- Of two ways to cut a text in two, the one with the smaller front cuts first. -/
theorem exists_middle_of_byteSize_le {a b c d : Text} (h : a ++ b = c ++ d)
    (hle : byteSize a ≤ byteSize c) : ∃ middle, c = a ++ middle ∧ b = middle ++ d := by
  rcases List.append_eq_append_iff.mp h with ⟨middle, hc, hb⟩ | ⟨middle, rfl, rfl⟩
  · exact ⟨middle, hc, hb⟩
  · rw [byteSize_append] at hle
    have hlength := length_le_byteSize middle
    obtain rfl : middle = [] := List.eq_nil_of_length_eq_zero (by omega)
    exact ⟨[], by simp, rfl⟩

/-! ## Positions -/

/-- The characters of a text that start within its first `count` bytes. -/
def takeBytes (count : Nat) : Text → Text
  | [] => []
  | c :: rest => if count = 0 then [] else c :: takeBytes (count - c.utf8Size) rest

@[simp] theorem takeBytes_zero (t : Text) : takeBytes 0 t = [] := by
  cases t <;> rfl

theorem takeBytes_cons {count : Nat} (h : 0 < count) (c : Char) (rest : Text) :
    takeBytes count (c :: rest) = c :: takeBytes (count - c.utf8Size) rest := by
  rw [takeBytes, if_neg (Nat.ne_of_gt h)]

theorem isPrefix_takeBytes (count : Nat) (t : Text) : takeBytes count t <+: t := by
  induction t generalizing count with
  | nil => exact List.prefix_refl _
  | cons c t ih =>
      rw [takeBytes]
      split
      · exact List.nil_prefix
      · exact List.cons_prefix_cons.mpr ⟨rfl, ih _⟩

/-- Behind a part that lies in the first `count` bytes, the count goes on. -/
theorem takeBytes_append {s : Text} {count : Nat} (h : byteSize s ≤ count) (t : Text) :
    takeBytes count (s ++ t) = s ++ takeBytes (count - byteSize s) t := by
  induction s generalizing count with
  | nil => rfl
  | cons c s ih =>
      have hpos := c.utf8Size_pos
      rw [byteSize_cons] at h
      rw [List.cons_append, takeBytes_cons (by omega), ih (by omega), byteSize_cons,
        Nat.sub_sub]
      rfl

/-- Only the characters of a part that reaches to `count` matter. -/
theorem takeBytes_append_of_le {s : Text} {count : Nat} (h : count ≤ byteSize s)
    (t : Text) : takeBytes count (s ++ t) = takeBytes count s := by
  induction s generalizing count with
  | nil => rw [Nat.le_zero.mp h, takeBytes_zero, takeBytes_zero]
  | cons c s ih =>
      rw [byteSize_cons] at h
      rw [List.cons_append, takeBytes, takeBytes, ih (by omega)]

/-- What starts within a longer count is behind what starts within a shorter one. -/
theorem takeBytes_of_le {t rest : Text} {count longer : Nat}
    (h : t = takeBytes count t ++ rest) (hle : count ≤ longer) :
    takeBytes longer t =
      takeBytes count t ++
        takeBytes (longer - byteSize (takeBytes count t)) rest := by
  induction t generalizing count longer with
  | nil =>
      obtain rfl : rest = [] := by simpa [takeBytes] using h
      rfl
  | cons c t ih =>
      rcases Nat.eq_zero_or_pos count with rfl | hpos
      · rw [takeBytes_zero, List.nil_append] at h
        rw [h, takeBytes_zero]
        rfl
      · rw [takeBytes_cons hpos, List.cons_append] at h
        rw [takeBytes_cons hpos, takeBytes_cons (Nat.lt_of_lt_of_le hpos hle), List.cons_append,
          ih (List.cons.inj h).2 (Nat.sub_le_sub_right hle _), byteSize_cons, Nat.sub_sub]

/-- A text that goes on behind the characters that start within a count has at least so many
bytes in front. -/
theorem le_byteSize_takeBytes {t rest : Text} {count : Nat} {c : Char}
    (h : t = takeBytes count t ++ c :: rest) : count ≤ byteSize (takeBytes count t) := by
  induction t generalizing count with
  | nil => simp at h
  | cons d t ih =>
      rcases Nat.eq_zero_or_pos count with rfl | hpos
      · exact Nat.zero_le _
      · rw [takeBytes_cons hpos, List.cons_append] at h
        have hrest := ih (List.cons.inj h).2
        rw [takeBytes_cons hpos, byteSize_cons]
        omega

/-! ## Lines -/

/-- The line of a byte position: the first line, and one more for each line feed in front
of the position. -/
def lineAt (t : Text) (offset : Nat) : Nat := 1 + breaks (takeBytes offset t)

@[simp] theorem lineAt_zero (t : Text) : lineAt t 0 = 1 := by
  rw [lineAt, takeBytes_zero, breaks_nil]

theorem lineAt_le (t : Text) (offset : Nat) : lineAt t offset ≤ 1 + breaks t :=
  Nat.add_le_add_left (breaks_le_of_sublist (isPrefix_takeBytes offset t).sublist) 1

theorem lineAt_byteSize (s t : Text) : lineAt (s ++ t) (byteSize s) = 1 + breaks s := by
  rw [lineAt, takeBytes_append (Nat.le_refl _), Nat.sub_self, takeBytes_zero,
    List.append_nil]

theorem le_lineAt_append {s : Text} {offset : Nat} (h : byteSize s ≤ offset) (t : Text) :
    1 + breaks s ≤ lineAt (s ++ t) offset := by
  rw [lineAt, takeBytes_append h, breaks_append]
  omega

theorem lineAt_append_le {s : Text} {offset : Nat} (h : offset ≤ byteSize s) (t : Text) :
    lineAt (s ++ t) offset ≤ 1 + breaks s := by
  rw [lineAt, takeBytes_append_of_le h]
  exact Nat.add_le_add_left (breaks_le_of_sublist (isPrefix_takeBytes _ _).sublist) 1

theorem lineAt_mono {t : Text} {offset later : Nat} (h : offset ≤ later) :
    lineAt t offset ≤ lineAt t later := by
  obtain ⟨rest, hrest⟩ := isPrefix_takeBytes offset t
  rw [lineAt, lineAt, takeBytes_of_le hrest.symm h, breaks_append]
  omega

/-! ## Slices -/

theorem dropBytes?_eq_some {count : Nat} {t rest : Text}
    (h : dropBytes? count t = some rest) :
    t = takeBytes count t ++ rest ∧ byteSize (takeBytes count t) = count := by
  induction t generalizing count with
  | nil =>
      cases count with
      | zero => simpa [dropBytes?] using h
      | succ count => simp [dropBytes?] at h
  | cons c t ih =>
      cases count with
      | zero => simpa [dropBytes?] using h
      | succ count =>
          rw [dropBytes?] at h
          split at h
          case isTrue hfits =>
            obtain ⟨hrest, hsize⟩ := ih h
            rw [takeBytes_cons (Nat.succ_pos _), List.cons_append, byteSize_cons, hsize]
            exact ⟨by rw [← hrest], by omega⟩
          case isFalse => contradiction

/-- A slice stands between its two positions. -/
theorem exists_of_byteSlice? {t slice : Text} {start stop : Nat}
    (h : byteSlice? t start stop = some slice) :
    ∃ front back, t = front ++ (slice ++ back) ∧ byteSize front = start ∧
      start + byteSize slice = stop := by
  rw [byteSlice?] at h
  split at h
  case isFalse => contradiction
  case isTrue hle =>
    obtain ⟨behindStart, hstart, h⟩ := Option.bind_eq_some_iff.mp h
    obtain ⟨behindStop, hstop, h⟩ := Option.bind_eq_some_iff.mp h
    obtain ⟨hbefore, hfront⟩ := dropBytes?_eq_some hstart
    obtain ⟨hbetween, hsize⟩ := dropBytes?_eq_some hstop
    have hslice : slice = takeBytes (stop - start) behindStart := by
      have hlength := congrArg List.length hbetween
      rw [List.length_append] at hlength
      rw [← Option.some.inj h, hlength, Nat.add_sub_cancel]
      exact (List.prefix_iff_eq_take.mp ⟨behindStop, hbetween.symm⟩).symm
    refine ⟨takeBytes start t, behindStop, ?_, hfront, ?_⟩
    · rw [hslice, ← hbetween]
      exact hbefore
    · rw [hslice, hsize]
      omega

/-- A slice holds the line feeds between the lines of its two positions. -/
theorem lineAt_of_byteSlice? {t slice : Text} {start stop : Nat}
    (h : byteSlice? t start stop = some slice) :
    lineAt t start + breaks slice = lineAt t stop := by
  obtain ⟨front, back, rfl, rfl, rfl⟩ := exists_of_byteSlice? h
  rw [lineAt_byteSize, ← List.append_assoc, ← byteSize_append, lineAt_byteSize, breaks_append,
    Nat.add_assoc]

theorem dropBytes?_append (s t : Text) : dropBytes? (byteSize s) (s ++ t) = some t := by
  induction s with
  | nil => cases t <;> rfl
  | cons c s ih =>
      have hpos := c.utf8Size_pos
      obtain ⟨count, hcount⟩ : ∃ count, byteSize (c :: s) = count + 1 :=
        Nat.exists_eq_add_one.mpr (by rw [byteSize_cons]; omega)
      have hrest : count + 1 - c.utf8Size = byteSize s := by
        rw [← hcount, byteSize_cons]
        omega
      rw [hcount, List.cons_append, dropBytes?, if_pos, hrest, ih]
      rw [← hcount, byteSize_cons]
      omega

/-- The slice between the positions at which a part starts and ends is that part. -/
theorem byteSlice?_append (before part after : Text) :
    byteSlice? (before ++ (part ++ after)) (byteSize before)
      (byteSize before + byteSize part) = some part := by
  rw [byteSlice?, if_pos (Nat.le_add_right _ _), dropBytes?_append, Option.bind_eq_bind,
    Option.bind_some, Nat.add_sub_cancel_left, dropBytes?_append, Option.bind_some,
    List.length_append, Nat.add_sub_cancel, List.take_left]

end Text

namespace LineCursor

open Text

/-- The cursor stands in the text at the given byte position. -/
structure StandsAt (content : Text) (offset : Nat) (cursor : LineCursor) : Prop where
  position : cursor.position = byteSize (takeBytes offset content)
  line : cursor.line = lineAt content offset
  rest : content = takeBytes offset content ++ cursor.rest

theorem standsAt_start (content : Text) : StandsAt content 0 (start content) := by
  refine ⟨?_, ?_, ?_⟩ <;> simp [start]

theorem advanceFrom_eq (offset position line : Nat) (rest : Text) :
    ∃ behind, rest = takeBytes (offset - position) rest ++ behind ∧
      advanceFrom offset position line rest =
        ⟨position + byteSize (takeBytes (offset - position) rest),
          line + breaks (takeBytes (offset - position) rest), behind⟩ := by
  induction rest generalizing position line with
  | nil => exact ⟨[], rfl, rfl⟩
  | cons c rest ih =>
      rw [advanceFrom]
      split
      case isTrue hlt =>
        obtain ⟨behind, hrest, heq⟩ :=
          ih (position + c.utf8Size) (if c = '\n' then line + 1 else line)
        rw [takeBytes_cons (Nat.sub_pos_of_lt hlt), Nat.sub_sub, heq, byteSize_cons,
          breaks_cons]
        refine ⟨behind, congrArg (c :: ·) hrest, ?_⟩
        congr 1
        · omega
        · split <;> omega
      case isFalse hge =>
        rw [Nat.sub_eq_zero_of_le (Nat.le_of_not_lt hge), takeBytes_zero]
        exact ⟨c :: rest, rfl, rfl⟩

/-- The cursor moves on to any later position. -/
theorem StandsAt.advance {content : Text} {offset later : Nat} {cursor : LineCursor}
    (h : StandsAt content offset cursor) (hlater : offset ≤ later) :
    StandsAt content later (cursor.advance later) := by
  obtain ⟨behind, hrest, heq⟩ :=
    advanceFrom_eq later cursor.position cursor.line cursor.rest
  have htaken := takeBytes_of_le h.rest hlater
  rw [← h.position] at htaken
  rw [LineCursor.advance, heq]
  refine ⟨?_, ?_, ?_⟩
  · rw [htaken, byteSize_append, ← h.position]
  · rw [lineAt, htaken, breaks_append, ← Nat.add_assoc, ← lineAt, ← h.line]
  · rw [htaken, List.append_assoc, ← hrest]
    exact h.rest

/-- The cursor does not move back. -/
theorem StandsAt.advance_of_le {content : Text} {offset earlier : Nat} {cursor : LineCursor}
    (h : StandsAt content offset cursor) (hle : earlier ≤ offset) :
    cursor.advance earlier = cursor := by
  obtain ⟨position, line, rest⟩ := cursor
  cases rest with
  | nil => rfl
  | cons c rest =>
      have hoffset := le_byteSize_takeBytes h.rest
      have hposition : position = byteSize (takeBytes offset content) := h.position
      have hbehind : ¬position < earlier := by omega
      exact if_neg hbehind

end LineCursor

end LicenseText
