import Mathlib.Data.List.Forall2
import LicenseText.Extraction
import LicenseText.Proofs.Delimited.Lines

/-!
# Blanks at the ends of lines

A document is padded when blanks have been put in at the beginning or the end of its lines
(`PaddedLines`). In a delimited language nothing is seen of them: every line is trimmed
before it is read, a line of blanks is not read, and the lines keep their numbers, also when
blanks behind the last line feed make up a line of their own. Writing carriage returns in
front of the line feeds is a case of this.
-/

namespace LicenseText

namespace Text

/-- The line with blanks put in one after another: in front of it, behind it, or in front of
the carriage return that stands at its end. -/
inductive Padded (line : Text) : Text → Prop
  | same : Padded line line
  | front {c : Char} {padded : Text} : isBlank c = true → Padded line padded →
      Padded line (c :: padded)
  | back {c : Char} {padded : Text} : isBlank c = true → Padded line padded →
      Padded line (padded ++ [c])
  | beforeReturn {c : Char} {padded : Text} : isBlank c = true →
      Padded line (padded ++ ['\r']) → Padded line (padded ++ [c, '\r'])

/-- The text with blanks put in at the beginning or the end of its lines. Since no line holds
a line feed, none of these blanks is one. -/
def PaddedLines (t padded : Text) : Prop :=
  List.Forall₂ Padded (t.splitOn '\n') (padded.splitOn '\n')

/-- The text with a carriage return in front of each line feed. -/
def withReturns (t : Text) : Text := t.flatMap fun c => if c = '\n' then ['\r', '\n'] else [c]

theorem Padded.trim_eq {line padded : Text} (h : Padded line padded) :
    padded.trim = line.trim := by
  induction h with
  | same => rfl
  | front hc _ ih => rw [trim_cons_blank hc, ih]
  | back hc _ ih => rw [trim_concat_blank hc, ih]
  | @beforeReturn c padded hc _ ih =>
      have hreturn : isBlank '\r' = true := by decide
      rw [trim_concat_blank hreturn] at ih
      rw [← List.singleton_append, ← List.append_assoc, trim_concat_blank hreturn,
        trim_concat_blank hc, ih]

theorem map_trim_eq_of_padded {lines padded : List Text}
    (h : List.Forall₂ Padded lines padded) : padded.map trim = lines.map trim := by
  induction h with
  | nil => rfl
  | cons hline _ ih => rw [List.map_cons, List.map_cons, hline.trim_eq, ih]

/-- Each line has a carriage return behind it, or is the last one and stays as it is. -/
theorem splitOn_withReturns (t : Text) :
    List.Forall₂ (fun line ended => ended = line ∨ ended = line ++ ['\r']) (t.splitOn '\n')
      (t.withReturns.splitOn '\n') := by
  induction t with
  | nil => exact .cons (.inl rfl) .nil
  | cons c t ih =>
      rw [withReturns, List.flatMap_cons, ← withReturns]
      by_cases hc : c = '\n'
      · subst hc
        rw [if_pos rfl]
        exact .cons (.inr rfl) ih
      · rw [if_neg hc, List.singleton_append, splitOn_cons_of_ne hc, splitOn_cons_of_ne hc]
        generalize t.splitOn '\n' = lines at ih ⊢
        generalize (withReturns t).splitOn '\n' = ended at ih ⊢
        cases ih with
        | nil => exact .nil
        | cons hline hrest =>
            refine .cons ?_ hrest
            rcases hline with rfl | rfl
            · exact .inl rfl
            · exact .inr rfl

theorem paddedLines_withReturns (t : Text) : t.PaddedLines t.withReturns := by
  refine (splitOn_withReturns t).imp ?_
  rintro line ended (rfl | rfl)
  · exact .same
  · exact .back (by decide) .same

end Text

theorem Delimited.readableLines_of_paddedLines {content padded : Text}
    (h : content.PaddedLines padded) : readableLines padded = readableLines content := by
  rw [readableLines_eq_splitOn, readableLines_eq_splitOn]
  exact readableFrom_congr (Text.map_trim_eq_of_padded h) 1

/-- The items of a document of a delimited language are those of the lines that are read. -/
theorem items_eq_of_readableLines {type : FileType} {delimiters : DelimitedSyntax}
    (htype : type.syntax? = some (.delimited delimiters)) {content content' : Text}
    (h : Delimited.readableLines content = Delimited.readableLines content')
    (options : ExtractOptions) : items content type options = items content' type options := by
  rw [items, items, foundItems, foundItems, htype]
  simp only [Delimited.read, h]

/-- In a delimited language, blanks that are put in at the beginning or the end of lines, and
carriage returns in front of line feeds in particular, change none of the items. -/
theorem items_paddedLines {type : FileType} {delimiters : DelimitedSyntax}
    (htype : type.syntax? = some (.delimited delimiters)) (content : Text)
    (options : ExtractOptions) :
    (∀ padded, content.PaddedLines padded →
      items padded type options = items content type options) ∧
    items content.withReturns type options = items content type options := by
  have hpadded : ∀ padded, content.PaddedLines padded →
      items padded type options = items content type options := fun padded h =>
    items_eq_of_readableLines htype (Delimited.readableLines_of_paddedLines h) options
  exact ⟨hpadded, hpadded _ content.paddedLines_withReturns⟩

theorem items_paddedLines_of_code :
    (FileType.c.syntax? = some (.delimited .cLike) ∧
      Text.PaddedLines "/* a\nb */\r\n".toList "\t/* a\r\nb */\u00a0\r\n ".toList) ∧
    items "\t/* a\r\nb */\u00a0\r\n ".toList .c {} = items "/* a\nb */\r\n".toList .c {} ∧
    items (Text.withReturns "/* a\nb */\r\n".toList) .c {} =
      items "/* a\nb */\r\n".toList .c {} := by
  have hlines : ("/* a\nb */\r\n".toList).splitOn '\n' =
      ["/* a".toList, "b */\r".toList, []] := by decide
  have hpadded : ("\t/* a\r\nb */\u00a0\r\n ".toList).splitOn '\n' =
      ["\t/* a\r".toList, "b */\u00a0\r".toList, [' ']] := by decide
  have h : Text.PaddedLines "/* a\nb */\r\n".toList "\t/* a\r\nb */\u00a0\r\n ".toList := by
    rw [Text.PaddedLines, hlines, hpadded]
    refine .cons ?_ (.cons ?_ (.cons (.front (by decide) .same) .nil))
    · exact .front (by decide) (@Text.Padded.back _ '\r' "/* a".toList (by decide) .same)
    · exact @Text.Padded.beforeReturn _ '\u00a0' "b */".toList (by decide) .same
  obtain ⟨hitems, hreturns⟩ := @items_paddedLines .c .cLike rfl "/* a\nb */\r\n".toList {}
  exact ⟨⟨rfl, h⟩, hitems _ h, hreturns⟩

end LicenseText
