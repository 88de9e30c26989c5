import LicenseText.Delimited.Reader
import LicenseText.Proofs.Text.Lines
import LicenseText.Proofs.Text.Trim

/-!
# The lines that are read, from any line on

`readableFrom` numbers, trims and selects lines that start at a given number. It is
what `readableLines` does with a whole document, and it takes apart a document that is
put together from pieces. Since lines are trimmed before anything else is done with them,
it makes no difference how a line ends, and the pieces between the line feeds of a document
may stand for its lines.
-/

namespace LicenseText

namespace Delimited

/-- The lines that are read of those that start at the line `number`. -/
def readableFrom (number : Nat) : List Text → List NumberedLine
  | [] => []
  | raw :: rest =>
    if raw.trim.isEmpty then readableFrom (number + 1) rest
    else ⟨number, raw.trim⟩ :: readableFrom (number + 1) rest

theorem readableFrom_append (number : Nat) (xs ys : List Text) :
    readableFrom number (xs ++ ys) =
      readableFrom number xs ++ readableFrom (number + xs.length) ys := by
  induction xs generalizing number with
  | nil => rfl
  | cons raw rest ih =>
      rw [List.cons_append, readableFrom, readableFrom, ih, List.length_cons]
      have hnumber : number + 1 + rest.length = number + (rest.length + 1) := by omega
      rw [hnumber]
      split <;> rfl

theorem readableFrom_eq_filter (lines : List Text) (index : Nat) :
    ((lines.zipIdx index).map fun (line, index) => ⟨index + 1, line.trim⟩).filter
        (fun line : NumberedLine => !line.text.isEmpty) =
      readableFrom (index + 1) lines := by
  induction lines generalizing index with
  | nil => rfl
  | cons raw rest ih =>
      rw [List.zipIdx_cons, List.map_cons, List.filter_cons, ih, readableFrom]
      cases raw.trim.isEmpty <;> rfl

theorem readableLines_eq (content : Text) :
    readableLines content = readableFrom 1 content.lines := by
  rw [← readableFrom_eq_filter, readableLines, Text.numberedLines, List.map_map]
  rfl

/-- What is read of a line is what is left when it has been trimmed. -/
theorem readableFrom_congr {xs ys : List Text} (h : xs.map Text.trim = ys.map Text.trim)
    (number : Nat) : readableFrom number xs = readableFrom number ys := by
  induction xs generalizing number ys with
  | nil =>
      obtain rfl : ys = [] := List.map_eq_nil_iff.mp h.symm
      rfl
  | cons x xs ih =>
      cases ys with
      | nil => contradiction
      | cons y ys =>
          obtain ⟨hline, hrest⟩ := List.cons.inj h
          rw [readableFrom, readableFrom, hline, ih hrest]

theorem readableFrom_dropReturn (number : Nat) (lines : List Text) :
    readableFrom number (lines.map Text.dropReturn) = readableFrom number lines := by
  apply readableFrom_congr
  rw [List.map_map]
  exact List.map_congr_left fun line _ => Text.trim_dropReturn line

theorem readableLines_eq_splitOn (content : Text) :
    readableLines content = readableFrom 1 (content.splitOn '\n') := by
  rcases List.eq_nil_or_concat (content.splitOn '\n') with hnil | ⟨front, last, hpieces⟩
  · exact absurd hnil (List.splitOn_ne_nil _ _)
  · rw [readableLines_eq, Text.lines, hpieces, List.concat_eq_append, List.dropLast_concat,
      List.getLast?_concat, readableFrom_append, readableFrom_append, readableFrom_dropReturn,
      List.length_map]
    cases last with
    | nil => rfl
    | cons c last => rfl

theorem le_number_of_mem_readableFrom {number : Nat} {lines : List Text}
    {line : NumberedLine} (h : line ∈ readableFrom number lines) :
    number ≤ line.number := by
  induction lines generalizing number with
  | nil => contradiction
  | cons raw rest ih =>
      rw [readableFrom] at h
      split at h
      · exact Nat.le_of_succ_le (ih h)
      · rcases List.mem_cons.mp h with rfl | h
        · exact Nat.le_refl _
        · exact Nat.le_of_succ_le (ih h)

theorem number_lt_of_mem_readableFrom {number : Nat} {lines : List Text}
    {line : NumberedLine} (h : line ∈ readableFrom number lines) :
    line.number < number + lines.length := by
  induction lines generalizing number with
  | nil => contradiction
  | cons raw rest ih =>
      have hlater : line ∈ readableFrom (number + 1) rest →
          line.number < number + (raw :: rest).length := by
        intro h
        rw [List.length_cons, Nat.add_comm rest.length, ← Nat.add_assoc]
        exact ih h
      rw [readableFrom] at h
      split at h
      · exact hlater h
      · rcases List.mem_cons.mp h with rfl | h
        · exact Nat.lt_add_of_pos_right (Nat.succ_pos _)
        · exact hlater h

/-- The lines that are read are lines of the document. -/
theorem number_of_mem_readableLines {content : Text} {line : NumberedLine}
    (h : line ∈ readableLines content) :
    1 ≤ line.number ∧ line.number ≤ 1 + Text.breaks content := by
  rw [readableLines_eq] at h
  have hlength := Text.length_lines_le content
  have hnumber := number_lt_of_mem_readableFrom h
  exact ⟨le_number_of_mem_readableFrom h, by omega⟩

/-- The lines that are read have increasing numbers. -/
theorem pairwise_number_readableFrom (number : Nat) (lines : List Text) :
    (readableFrom number lines).Pairwise fun line later => line.number < later.number := by
  induction lines generalizing number with
  | nil => exact .nil
  | cons raw rest ih =>
      rw [readableFrom]
      split
      · exact ih (number + 1)
      · refine List.pairwise_cons.mpr ⟨?_, ih (number + 1)⟩
        intro later hlater
        exact le_number_of_mem_readableFrom hlater

theorem pairwise_number_readableLines (content : Text) :
    (readableLines content).Pairwise fun line later => line.number < later.number := by
  rw [readableLines_eq]
  exact pairwise_number_readableFrom 1 content.lines

end Delimited

end LicenseText
