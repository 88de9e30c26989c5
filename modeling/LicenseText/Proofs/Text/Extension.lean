import Mathlib.Data.List.TakeWhile
import LicenseText.FileType.Detection
import LicenseText.Proofs.Text.Utf8

/-!
# Extensions of paths

The letters A to Z are the only bytes that ASCII folding changes, so it neither makes nor
removes a slash or a dot. The names of a path and its extension are therefore found at the
same places when the letters of the path change their case. An extension has no dot, and
every text without dots and slashes is the extension of some path.
-/

namespace LicenseText

/-! ## Lists cut at a separator -/

section Split

variable {α : Type} {sep : α}

/-- An element of a list stands there for a last time. -/
theorem exists_last_of_mem {l : List α} (h : sep ∈ l) :
    ∃ front behind, l = front ++ sep :: behind ∧ sep ∉ behind := by
  obtain ⟨behind, front, hreverse, hbehind⟩ :=
    List.eq_append_cons_of_mem (List.mem_reverse.mpr h)
  refine ⟨front.reverse, behind.reverse, ?_, fun hsep => hbehind (List.mem_reverse.mp hsep)⟩
  rw [← List.reverse_inj, hreverse]
  simp

variable [DecidableEq α]

/-- The separator is in none of the pieces. -/
theorem not_mem_of_mem_splitOn {l piece : List α} (h : piece ∈ l.splitOn sep) :
    sep ∉ piece := by
  induction l generalizing piece with
  | nil =>
      obtain rfl : piece = [] := by simpa using h
      exact List.not_mem_nil
  | cons x l ih =>
      rw [List.splitOn_cons_eq_if_modifyHead] at h
      split at h
      · rcases List.mem_cons.mp h with rfl | h
        · exact List.not_mem_nil
        · exact ih h
      · rename_i hx
        obtain ⟨first, rest, hpieces⟩ :=
          List.exists_cons_of_ne_nil (List.splitOn_ne_nil sep l)
        rw [hpieces] at h ih
        rcases List.mem_cons.mp h with rfl | h
        · have hne : sep ≠ x := fun h => hx (by simpa using h.symm)
          exact List.not_mem_cons_of_ne_of_not_mem hne (ih List.mem_cons_self)
        · exact ih (List.mem_cons_of_mem _ h)

/-- A map that keeps the separator, and makes it of nothing else, keeps the pieces. -/
theorem splitOn_map {f : α → α} (hf : ∀ x, f x = sep ↔ x = sep) (l : List α) :
    (l.map f).splitOn sep = (l.splitOn sep).map (List.map f) := by
  induction l with
  | nil => rfl
  | cons x l ih =>
      rw [List.map_cons, List.splitOn_cons_eq_if_modifyHead,
        List.splitOn_cons_eq_if_modifyHead, ih]
      by_cases hx : x = sep
      · rw [if_pos (by simpa using (hf x).mpr hx), if_pos (by simpa using hx), List.map_cons]
        rfl
      · have hne : f x ≠ sep := fun h => hx ((hf x).mp h)
        rw [if_neg (by simpa using hne), if_neg (by simpa using hx)]
        cases l.splitOn sep with
        | nil => rfl
        | cons piece rest => rfl

end Split

namespace Text

theorem lowerAscii_lowerAscii (t : Text) : t.lowerAscii.lowerAscii = t.lowerAscii := by
  rw [lowerAscii, lowerAscii, List.map_map]
  refine List.map_congr_left fun c _ => ?_
  rw [Function.comp_apply, ← Char.toNat_inj, toNat_toLower, toNat_toLower]
  repeat' split
  all_goals omega

theorem mem_lowerAscii_iff {c : Char} (hc : c.toNat < 65) (t : Text) :
    c ∈ t.lowerAscii ↔ c ∈ t := by
  rw [lowerAscii, List.mem_map]
  constructor
  · rintro ⟨d, hd, hlower⟩
    rwa [← (toLower_eq_iff hc d).mp hlower]
  · intro h
    exact ⟨c, h, (toLower_eq_iff hc c).mpr rfl⟩

end Text

namespace Bytes

/-- A byte string that stands for itself is no other one in lower case. -/
theorem lowerAscii_eq_iff {word : Bytes} (hword : ∀ x ∈ word, x.toNat < 65) (b : Bytes) :
    lowerAscii b = word ↔ b = word := by
  induction word generalizing b with
  | nil => exact List.map_eq_nil_iff
  | cons y word ih =>
      obtain ⟨hy, hword⟩ := List.forall_mem_cons.mp hword
      cases b with
      | nil => exact iff_of_false (List.cons_ne_nil y word).symm (List.cons_ne_nil y word).symm
      | cons x b =>
          have hcons : lowerAscii (x :: b) = lowerByte x :: lowerAscii b := rfl
          rw [hcons, List.cons.injEq, List.cons.injEq, lowerByte_eq_iff hy, ih hword]

theorem mem_lowerAscii_iff {x : UInt8} (hx : x.toNat < 65) (b : Bytes) :
    x ∈ lowerAscii b ↔ x ∈ b := by
  rw [lowerAscii, List.mem_map]
  constructor
  · rintro ⟨y, hy, hlower⟩
    rwa [← (lowerByte_eq_iff hx y).mp hlower]
  · intro h
    exact ⟨x, h, (lowerByte_eq_iff hx x).mpr rfl⟩

end Bytes

namespace Path

open Bytes (lowerAscii)

theorem components_lowerAscii (path : Bytes) :
    components (lowerAscii path) = (components path).map lowerAscii := by
  have hslash : ∀ x, Bytes.lowerByte x = slash ↔ x = slash :=
    Bytes.lowerByte_eq_iff (by decide)
  have hsplit : (lowerAscii path).splitOn slash = (path.splitOn slash).map lowerAscii :=
    splitOn_map hslash path
  rw [components, components, hsplit, List.filter_map]
  refine congrArg (List.map lowerAscii) (List.filter_congr fun name _ => ?_)
  have hdot : (lowerAscii name != [dot]) = (name != [dot]) := by
    have hbelow : ∀ x ∈ [dot], x.toNat < 65 := List.forall_mem_singleton.mpr (by decide)
    rw [Bool.eq_iff_iff, bne_iff_ne, bne_iff_ne, ne_eq, Bytes.lowerAscii_eq_iff hbelow]
  have hempty : (lowerAscii name).isEmpty = name.isEmpty := List.isEmpty_map
  rw [Function.comp_apply, hdot, hempty]

theorem fileName?_lowerAscii (path : Bytes) :
    fileName? (lowerAscii path) = (fileName? path).map lowerAscii := by
  rw [fileName?, fileName?, components_lowerAscii, List.getLast?_map]
  cases (components path).getLast? with
  | none => rfl
  | some name =>
      have hdots : (lowerAscii name != [dot, dot]) = (name != [dot, dot]) := by
        have hbelow : ∀ x ∈ [dot, dot], x.toNat < 65 :=
          List.forall_mem_cons.mpr ⟨by decide, List.forall_mem_singleton.mpr (by decide)⟩
        rw [Bool.eq_iff_iff, bne_iff_ne, bne_iff_ne, ne_eq, Bytes.lowerAscii_eq_iff hbelow]
      rw [Option.map_some, Option.filter_some, Option.filter_some, hdots]
      split <;> rfl

/-- What follows the last dot of a name, unless the name starts with it. -/
def extensionOfName? (name : Bytes) : Option Bytes :=
  let behind := name.reverse.takeWhile (· ≠ dot)
  if (name.reverse.drop (behind.length + 1)).isEmpty then none else some behind.reverse

theorem extension?_eq (path : Bytes) :
    extension? path = (fileName? path).bind extensionOfName? := rfl

theorem extensionOfName?_append {extension : Bytes} (hdot : dot ∉ extension) (front : Bytes) :
    extensionOfName? (front ++ dot :: extension) =
      if front.isEmpty then none else some extension := by
  have hreverse : (front ++ dot :: extension).reverse =
      extension.reverse ++ dot :: front.reverse := by simp
  have hbehind : (extension.reverse ++ dot :: front.reverse).takeWhile (· ≠ dot) =
      extension.reverse := by
    rw [List.takeWhile_append_of_pos, List.takeWhile_cons_of_neg (by simp), List.append_nil]
    intro c hc
    have hne : c ≠ dot := fun h => hdot (h ▸ List.mem_reverse.mp hc)
    simpa using hne
  have hfront : (extension.reverse ++ dot :: front.reverse).drop (extension.reverse.length + 1) =
      front.reverse := by
    rw [← List.drop_drop, List.drop_left]
    rfl
  rw [extensionOfName?, hreverse, hbehind, hfront, List.isEmpty_reverse, List.reverse_reverse]

theorem extensionOfName?_of_not_mem {name : Bytes} (hdot : dot ∉ name) :
    extensionOfName? name = none := by
  have hbehind : name.reverse.takeWhile (· ≠ dot) = name.reverse := by
    rw [List.takeWhile_eq_self_iff]
    intro c hc
    have hne : c ≠ dot := fun h => hdot (h ▸ List.mem_reverse.mp hc)
    simpa using hne
  rw [extensionOfName?, hbehind, if_pos]
  rw [List.isEmpty_iff, List.drop_eq_nil_iff]
  omega

/-- A name has an extension exactly when a dot stands behind its first character. -/
theorem extensionOfName?_eq_some_iff {name extension : Bytes} :
    extensionOfName? name = some extension ↔
      ∃ front, front ≠ [] ∧ name = front ++ dot :: extension ∧ dot ∉ extension := by
  constructor
  · intro h
    by_cases hmem : dot ∈ name
    · obtain ⟨front, behind, rfl, hdot⟩ := exists_last_of_mem hmem
      rw [extensionOfName?_append hdot] at h
      split at h
      · contradiction
      · rename_i hfront
        obtain rfl := Option.some.inj h
        exact ⟨front, fun hnil => hfront (List.isEmpty_iff.mpr hnil), rfl, hdot⟩
    · rw [extensionOfName?_of_not_mem hmem] at h
      contradiction
  · rintro ⟨front, hfront, rfl, hdot⟩
    rw [extensionOfName?_append hdot, List.isEmpty_eq_false_iff.mpr hfront]
    rfl

theorem extensionOfName?_lowerAscii (name : Bytes) :
    extensionOfName? (lowerAscii name) = (extensionOfName? name).map lowerAscii := by
  have hdot : ∀ t, dot ∈ lowerAscii t ↔ dot ∈ t := Bytes.mem_lowerAscii_iff (by decide)
  by_cases hmem : dot ∈ name
  · obtain ⟨front, behind, rfl, hbehind⟩ := exists_last_of_mem hmem
    have hlower : lowerAscii (front ++ dot :: behind) =
        lowerAscii front ++ dot :: lowerAscii behind := List.map_append
    have hempty : (lowerAscii front).isEmpty = front.isEmpty := List.isEmpty_map
    rw [hlower, extensionOfName?_append (by rwa [hdot]), extensionOfName?_append hbehind, hempty]
    split <;> rfl
  · rw [extensionOfName?_of_not_mem hmem, extensionOfName?_of_not_mem (by rwa [hdot])]
    rfl

/-- The extension of a path changes its case with the path. -/
theorem extension?_lowerAscii (path : Bytes) :
    extension? (lowerAscii path) = (extension? path).map lowerAscii := by
  rw [extension?_eq, extension?_eq, fileName?_lowerAscii, Option.bind_map, Option.map_bind]
  exact Option.bind_congr fun name _ => extensionOfName?_lowerAscii name

theorem dot_not_mem_of_extension? {path extension : Bytes}
    (h : extension? path = some extension) : dot ∉ extension := by
  obtain ⟨name, -, hname⟩ := Option.bind_eq_some_iff.mp h
  obtain ⟨-, -, -, hdot⟩ := extensionOfName?_eq_some_iff.mp hname
  exact hdot

theorem slash_not_mem_of_extension? {path extension : Bytes}
    (h : extension? path = some extension) : slash ∉ extension := by
  obtain ⟨name, hfile, hname⟩ := Option.bind_eq_some_iff.mp h
  obtain ⟨front, -, rfl, -⟩ := extensionOfName?_eq_some_iff.mp hname
  have hmem : front ++ dot :: extension ∈ path.splitOn slash := by
    have hlast := (Option.filter_eq_some_iff.mp hfile).1
    exact (List.mem_filter.mp (List.mem_of_getLast? hlast)).1
  intro hslash
  exact not_mem_of_mem_splitOn hmem
    (List.mem_append_right _ (List.mem_cons_of_mem _ hslash))

/-- A byte string without dots and slashes is the extension of a file. -/
theorem extension?_file {extension : Bytes} (hdot : dot ∉ extension)
    (hslash : slash ∉ extension) :
    extension? (0x66 :: dot :: extension) = some extension := by
  have hname : fileName? (0x66 :: dot :: extension) = some (0x66 :: dot :: extension) := by
    have hmem : slash ∉ 0x66 :: dot :: extension :=
      List.not_mem_cons_of_ne_of_not_mem (by decide)
        (List.not_mem_cons_of_ne_of_not_mem (by decide) hslash)
    have hletter : (0x66 : UInt8) ≠ dot := by decide
    rw [fileName?, components, List.splitOn_eq_singleton hmem]
    simp [hletter]
  rw [extension?_eq, hname]
  exact extensionOfName?_append hdot [0x66]

end Path

/-! ## Extensions that are texts -/

namespace FileType

variable {path : Bytes} {extension : Text}

theorem extensionText?_lowerAscii (path : Bytes) :
    extensionText? (Bytes.lowerAscii path) = (extensionText? path).map Text.lowerAscii := by
  rw [extensionText?, extensionText?, Path.extension?_lowerAscii, Option.bind_map,
    Option.map_bind]
  exact Option.bind_congr fun extension _ => Bytes.text?_lowerAscii extension

theorem extension?_of_extensionText? (h : extensionText? path = some extension) :
    Path.extension? path = some extension.bytes := by
  obtain ⟨bytes, hbytes, htext⟩ := Option.bind_eq_some_iff.mp h
  rw [hbytes, Bytes.text?_eq_some_iff.mp htext]

theorem dot_not_mem_of_extensionText? (h : extensionText? path = some extension) :
    '.' ∉ extension := by
  have hdot := Path.dot_not_mem_of_extension? (extension?_of_extensionText? h)
  exact fun hmem => hdot ((Text.ofNat_mem_bytes_iff (c := '.') (by decide) _).mpr hmem)

theorem slash_not_mem_of_extensionText? (h : extensionText? path = some extension) :
    '/' ∉ extension := by
  have hslash := Path.slash_not_mem_of_extension? (extension?_of_extensionText? h)
  exact fun hmem => hslash ((Text.ofNat_mem_bytes_iff (c := '/') (by decide) _).mpr hmem)

def pathWith (extension : Text) : Bytes := Text.bytes "f.".toList ++ extension.bytes

/-- A text without dots and slashes is the extension of a path. -/
theorem extensionText?_pathWith (hdot : '.' ∉ extension) (hslash : '/' ∉ extension) :
    extensionText? (pathWith extension) = some extension := by
  have hdot' : Path.dot ∉ extension.bytes := fun hmem =>
    hdot ((Text.ofNat_mem_bytes_iff (c := '.') (by decide) _).mp hmem)
  have hslash' : Path.slash ∉ extension.bytes := fun hmem =>
    hslash ((Text.ofNat_mem_bytes_iff (c := '/') (by decide) _).mp hmem)
  have hpath : pathWith extension = 0x66 :: Path.dot :: extension.bytes := rfl
  rw [extensionText?, hpath, Path.extension?_file hdot' hslash',
    Option.bind_some, Bytes.text?_bytes]

end FileType

end LicenseText
