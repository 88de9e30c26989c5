import LicenseText.Proofs.Text.ByteOrder
import LicenseText.Proofs.Text.LetterCase

/-!
# Bytes and the texts that they spell

A byte string spells at most one text, the one of whose characters it has the bytes. The
bytes of ASCII characters occur in no other character, so a slash or a dot among the bytes
is one in the text, and the letters A to Z may be folded before a byte string is decoded or
afterwards.
-/

namespace LicenseText

theorem decodeUtf8?_eq_some_iff {bytes : ByteArray} {text : Text} :
    decodeUtf8? bytes = some text ↔ bytes = (String.ofList text).toUTF8 := by
  rw [decodeUtf8?, String.fromUTF8?]
  constructor
  · intro h
    split at h
    · next hvalid =>
      obtain rfl := Option.some.inj h
      rw [String.ofList_toList]
      rfl
    · contradiction
  · rintro rfl
    have hvalid : (String.ofList text).toUTF8.IsValidUTF8 := String.isValidUTF8 _
    rw [dif_pos hvalid]
    exact congrArg some String.toList_ofList

namespace Bytes

variable {b : Bytes} {t : Text}

theorem text?_eq_some_iff : text? b = some t ↔ b = t.bytes := by
  have hbytes : (String.ofList t).toUTF8 = t.bytes.toByteArray := rfl
  rw [text?, decodeUtf8?_eq_some_iff, hbytes]
  constructor
  · intro h
    rw [← List.toList_data_toByteArray (l := b), h, List.toList_data_toByteArray]
  · rintro rfl
    rfl

@[simp] theorem text?_bytes (t : Text) : text? t.bytes = some t :=
  text?_eq_some_iff.mpr rfl

theorem text?_eq_none_iff : text? b = none ↔ ∀ t : Text, b ≠ t.bytes := by
  rw [Option.eq_none_iff_forall_ne_some]
  exact forall_congr' fun t => not_congr text?_eq_some_iff

end Bytes

/-! ## ASCII characters -/

section Ascii

variable {c : Char} {x : UInt8}

theorem encodeChar_of_isAscii (hc : IsAscii c) :
    String.utf8EncodeChar c = [UInt8.ofNat c.toNat] := by
  have hsize : c.val.toNat ≤ 127 := Nat.le_of_lt_succ hc
  simp only [String.utf8EncodeChar]
  rw [if_pos hsize]
  rfl

theorem le_of_mem_encodeChar (hc : ¬IsAscii c) :
    ∀ x ∈ String.utf8EncodeChar c, 0x80 ≤ x.toNat := by
  have hsize : ¬c.val.toNat ≤ 127 := fun h => hc (Nat.lt_succ_of_le h)
  simp only [String.utf8EncodeChar]
  rw [if_neg hsize]
  repeat' split
  all_goals
    simp only [List.forall_mem_cons, List.not_mem_nil, false_implies, implies_true, and_true,
      UInt8.toNat_ofNat']
    omega

theorem toNat_ofNat_of_isAscii (hc : IsAscii c) : (UInt8.ofNat c.toNat).toNat = c.toNat := by
  rw [UInt8.toNat_ofNat']
  exact Nat.mod_eq_of_lt (Nat.lt_trans hc (by decide))

/-- The byte of an ASCII character stands for this character only. -/
theorem Text.ofNat_mem_bytes_iff (hc : IsAscii c) (t : Text) :
    UInt8.ofNat c.toNat ∈ t.bytes ↔ c ∈ t := by
  rw [Text.bytes, List.mem_flatMap]
  constructor
  · rintro ⟨d, hd, hmem⟩
    by_cases hascii : IsAscii d
    · rw [encodeChar_of_isAscii hascii, List.mem_singleton, ← UInt8.toNat_inj,
        toNat_ofNat_of_isAscii hc, toNat_ofNat_of_isAscii hascii] at hmem
      rwa [Char.toNat_inj.mp hmem]
    · have hhigh := le_of_mem_encodeChar hascii _ hmem
      rw [toNat_ofNat_of_isAscii hc] at hhigh
      exact absurd hc (Nat.not_lt.mpr hhigh)
  · intro hmem
    refine ⟨c, hmem, ?_⟩
    rw [encodeChar_of_isAscii hc]
    exact List.mem_singleton_self _

end Ascii

/-! ## Letter case -/

namespace Bytes

def lowerByte (x : UInt8) : UInt8 := if 65 ≤ x.toNat ∧ x.toNat ≤ 90 then x + 32 else x

def lowerAscii (b : Bytes) : Bytes := b.map lowerByte

theorem toNat_lowerByte (x : UInt8) :
    (lowerByte x).toNat = if 65 ≤ x.toNat ∧ x.toNat ≤ 90 then x.toNat + 32 else x.toNat := by
  rw [lowerByte]
  split
  case isTrue hupper =>
    have hadd : (x + 32).toNat = (x.toNat + 32) % 256 := UInt8.toNat_add x 32
    omega
  case isFalse => rfl

/-- No other byte becomes one that stands in front of the letters. -/
theorem lowerByte_eq_iff {y : UInt8} (hy : y.toNat < 65) (x : UInt8) :
    lowerByte x = y ↔ x = y := by
  rw [← UInt8.toNat_inj, ← UInt8.toNat_inj, toNat_lowerByte]
  split <;> omega

theorem lowerByte_of_le {x : UInt8} (h : 0x80 ≤ (lowerByte x).toNat) : lowerByte x = x := by
  rw [toNat_lowerByte] at h
  rw [← UInt8.toNat_inj, toNat_lowerByte]
  split at h
  · omega
  · exact if_neg ‹_›

end Bytes

theorem encodeChar_toLower (c : Char) :
    String.utf8EncodeChar c.toLower = (String.utf8EncodeChar c).map Bytes.lowerByte := by
  by_cases hc : IsAscii c
  · have hlower := (isAscii_toLower_iff c).mpr hc
    rw [encodeChar_of_isAscii hc, encodeChar_of_isAscii hlower, List.map_singleton,
      List.singleton_inj, ← UInt8.toNat_inj, toNat_ofNat_of_isAscii hlower,
      Bytes.toNat_lowerByte, toNat_ofNat_of_isAscii hc, toNat_toLower]
  · have hsame : c.toLower = c := by
      rw [← Char.toNat_inj, toNat_toLower]
      exact if_neg fun hupper => hc (Nat.lt_of_le_of_lt hupper.2 (by decide))
    rw [hsame, List.map_congr_left (g := id), List.map_id]
    intro x hx
    have hhigh := le_of_mem_encodeChar hc x hx
    rw [Bytes.lowerByte]
    exact if_neg fun hupper => by omega

namespace Bytes

theorem bytes_lowerAscii (t : Text) : t.lowerAscii.bytes = lowerAscii t.bytes := by
  rw [lowerAscii, Text.bytes, Text.bytes, Text.lowerAscii, List.flatMap_map, List.map_flatMap]
  exact congrArg (List.flatMap · t) (funext encodeChar_toLower)

/-- A byte string spells a text if it does so with A to Z folded. -/
theorem exists_bytes_of_lowerAscii {b : Bytes} {s : Text} (h : lowerAscii b = s.bytes) :
    ∃ t : Text, b = t.bytes := by
  induction s generalizing b with
  | nil => exact ⟨[], List.map_eq_nil_iff.mp h⟩
  | cons c s ih =>
      rw [Text.bytes_cons] at h
      obtain ⟨front, behind, rfl, hfront, hbehind⟩ := List.map_eq_append_iff.mp h
      obtain ⟨t, rfl⟩ := ih hbehind
      by_cases hc : IsAscii c
      · rw [encodeChar_of_isAscii hc] at hfront
        obtain ⟨x, rfl, hx⟩ := List.map_eq_singleton_iff.mp hfront
        have hascii : IsAscii (Char.ofUInt8 x) := by
          have hbyte := congrArg UInt8.toNat hx
          rw [toNat_lowerByte, toNat_ofNat_of_isAscii hc] at hbyte
          have hx : x.toNat < 0x80 := by
            split at hbyte <;> omega
          exact hx
        refine ⟨Char.ofUInt8 x :: t, ?_⟩
        rw [Text.bytes_cons, encodeChar_of_isAscii hascii]
        exact congrArg (· :: t.bytes) UInt8.ofNat_toNat.symm
      · have hsame : front.map lowerByte = front := by
          rw [List.map_congr_left (g := id), List.map_id]
          intro x hx
          apply lowerByte_of_le
          exact le_of_mem_encodeChar hc _ (hfront ▸ List.mem_map_of_mem hx)
        refine ⟨c :: t, ?_⟩
        rw [Text.bytes_cons, ← hfront, hsame]

/-- A byte string may be decoded before A to Z are folded or afterwards. -/
theorem text?_lowerAscii (b : Bytes) : text? (lowerAscii b) = (text? b).map Text.lowerAscii := by
  cases htext : text? b with
  | some t => rw [text?_eq_some_iff.mp htext, ← bytes_lowerAscii, text?_bytes, Option.map_some]
  | none =>
      rw [Option.map_none, text?_eq_none_iff]
      intro s hs
      obtain ⟨t, ht⟩ := exists_bytes_of_lowerAscii hs
      exact text?_eq_none_iff.mp htext t ht

/-! ## Byte strings as they are shown -/

theorem shownFrom_append (skipped b : Bytes) :
    shownFrom skipped.length (skipped ++ b) = shownFrom 0 b := by
  induction skipped with
  | nil => rfl
  | cons x skipped ih => exact ih

theorem firstChar?_bytes_cons (c : Char) (t : Text) :
    firstChar? (Text.bytes (c :: t)) = some c := by
  rw [firstChar?, Text.bytes_cons, List.toByteArray_append]
  exact ByteArray.utf8DecodeChar?_utf8EncodeChar_append

/-- The bytes of a text are shown as this text. -/
@[simp] theorem shown_bytes (t : Text) : shown t.bytes = t := by
  rw [shown]
  induction t with
  | nil => rfl
  | cons c t ih =>
      have hfirst := firstChar?_bytes_cons c t
      have hsize := String.length_utf8EncodeChar c
      rw [Text.bytes_cons] at hfirst ⊢
      cases hencoded : String.utf8EncodeChar c with
      | nil => exact absurd hencoded String.utf8EncodeChar_ne_nil
      | cons x rest =>
          rw [hencoded, List.cons_append] at hfirst
          rw [hencoded, List.length_cons] at hsize
          rw [List.cons_append, shownFrom, hfirst]
          dsimp only
          rw [← hsize, Nat.add_sub_cancel, shownFrom_append, ih]

end Bytes

end LicenseText
