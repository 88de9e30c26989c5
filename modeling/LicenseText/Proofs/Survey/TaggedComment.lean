import LicenseText.Proofs.License.HeaderChoice
import LicenseText.Proofs.Survey.ClassifierText
import LicenseText.Proofs.Survey.Consistency
import LicenseText.Proofs.Text.LetterCase

/-!
# Letter case in keywords and triggers

Keywords and the SPDX tag are looked for in lower case, triggers with A to Z folded alone.
For the words in question this makes no difference. The tag holds a trigger, so a comment
with the tag is relevant, and so is the file that it stands in.
-/

namespace LicenseText

/-! ## Keywords, the tag and the triggers -/

theorem keyword_foldsAlike {word : Text} (h : word ∈ keywords) : FoldsAlike word := by
  revert word
  decide +kernel

theorem contains_lowered {t lowered word : Text} (h : LowersTo t lowered)
    (hword : FoldsAlike word) :
    Text.contains word lowered = Text.contains word t.lowerAscii := by
  rw [Bool.eq_iff_iff, Text.contains_iff_isInfix, Text.contains_iff_isInfix,
    infix_lowered_iff h hword]

theorem countP_keywords_lowered {t lowered : Text} (h : LowersTo t lowered) :
    (keywords.countP fun word => Text.contains word lowered) =
      keywords.countP fun word => Text.contains word t.lowerAscii := by
  refine List.countP_congr fun word hword => ?_
  rw [contains_lowered h (keyword_foldsAlike hword)]

theorem contains_spdxTag_lowered {t lowered : Text} (h : LowersTo t lowered) :
    Text.contains spdxTag lowered = Text.contains spdxTag t.lowerAscii :=
  contains_lowered h (by decide)

/-- The tag holds a trigger. -/
theorem isRelevant_of_hasSpdxTag {t : Text} (h : hasSpdxTag t = true) :
    isRelevant t = true := by
  have htrigger : "licen".toList <:+: spdxTag := by decide
  have htag : spdxTag <:+: t.lowerAscii := by
    rw [← Text.contains_iff_isInfix, ← contains_spdxTag_lowered (lowersTo_lower t)]
    exact h
  exact (isRelevant_iff t).mpr ⟨"licen".toList, by decide, htrigger.trans htag⟩

namespace Division

theorem infix_blob {literal : Text} {literals : List Text} (h : literal ∈ literals) :
    literal ++ ['\n'] <:+: blob literals :=
  List.infix_of_mem_flatten (List.mem_map_of_mem h)

end Division

/-! ## Files -/

namespace Survey

variable {survey : Survey} {tree : FileTree} {path : Bytes} {content : Text} {items : List Item}

def Finds (survey : Survey) (tree : FileTree) (path : Bytes) (items : List Item) : Prop :=
  ∃ content, survey.content tree path = .ok content ∧
    itemsOrNone content (survey.typeOf path content) survey.config.extract = .ok items

theorem report_of_items (hcontent : survey.content tree path = .ok content)
    (hitems : itemsOrNone content (survey.typeOf path content) survey.config.extract =
      .ok items) :
    survey.report tree path =
      { path := path
        type := survey.typeOf path content
        literals := items.map Item.text
        relevant := (divide (items.map Item.text)).relevant
        other := (divide (items.map Item.text)).other
        header := header? items
        status := statusOf (survey.typeOf path content) (divide (items.map Item.text)) } := by
  rw [report, hcontent]
  dsimp only
  rw [reportOn, hitems]

/-- A file in which there is a relevant item is relevant, and the text of the item stands
in the relevant text. -/
theorem relevant_of_finds (h : survey.Finds tree path items) {item : Item}
    (hitem : item ∈ items) (hrelevant : isRelevant item.text = true) :
    (survey.report tree path).status = .relevant ∧
      item.text ++ ['\n'] <:+: (survey.report tree path).relevant := by
  obtain ⟨content, hcontent, hitems⟩ := h
  have hmem : item.text ∈ items.map Item.text := List.mem_map_of_mem hitem
  rw [report_of_items hcontent hitems]
  refine ⟨statusOf_eq_relevant_iff.mpr ⟨?_, ?_⟩, ?_⟩
  · intro htype
    rw [htype, itemsOrNone_unknown] at hitems
    rw [← Except.ok.inj hitems] at hitem
    contradiction
  · exact (hasRelevant_divide _).mpr ⟨item.text, hmem, hrelevant⟩
  · exact Division.infix_blob (List.mem_filter.mpr ⟨hmem, hrelevant⟩)

theorem header_of_finds (h : survey.Finds tree path items) :
    (survey.report tree path).header = header? items := by
  obtain ⟨content, hcontent, hitems⟩ := h
  rw [report_of_items hcontent hitems]

/-- One of the comments with the tag is the header. -/
theorem exists_header?_of_tagged {c : Comment} (hc : c ∈ commentsOf items)
    (htag : hasSpdxTag c.text = true) :
    ∃ winner ∈ commentsOf items, hasSpdxTag winner.text = true ∧
      header? items = some winner.text := by
  obtain ⟨winner, hwinner⟩ :
      ∃ winner, IsFirst (fun d => hasSpdxTag d.text = true) (commentsOf items) winner :=
    exists_isFirst ⟨c, hc, htag⟩
  exact ⟨winner, hwinner.mem, hwinner.1, header?_of_find? hwinner.find?⟩

/-- Keywords and the tag are found in the lower case of a text exactly when they are found
in the text with A to Z folded alone, whatever the lower case of a character depends on.
A comment with the tag is relevant; so is the file in which it is found, whose relevant
text holds that of the comment and whose header is such a comment. -/
theorem caseFoldings_agree (text : Text) (survey : Survey) (tree : FileTree)
    (path : Bytes) :
    (∀ lowered, LowersTo text lowered →
        (keywords.countP fun word => Text.contains word lowered) =
            (keywords.countP fun word => Text.contains word text.lowerAscii) ∧
          Text.contains spdxTag lowered = Text.contains spdxTag text.lowerAscii) ∧
      keywordCount text = (keywords.countP fun word => Text.contains word text.lowerAscii) ∧
      hasSpdxTag text = Text.contains spdxTag text.lowerAscii ∧
      ∀ items, survey.Finds tree path items →
        ∀ c ∈ commentsOf items, hasSpdxTag c.text = true →
          isRelevant c.text = true ∧
            (survey.report tree path).status = .relevant ∧
            c.text ++ ['\n'] <:+: (survey.report tree path).relevant ∧
            ∃ winner ∈ commentsOf items, hasSpdxTag winner.text = true ∧
              (survey.report tree path).header = some winner.text := by
  refine ⟨?_, ?_, ?_, ?_⟩
  · intro lowered hlowered
    exact ⟨countP_keywords_lowered hlowered, contains_spdxTag_lowered hlowered⟩
  · exact countP_keywords_lowered (lowersTo_lower text)
  · exact contains_spdxTag_lowered (lowersTo_lower text)
  · intro items hfinds c hc htag
    have hrelevant := isRelevant_of_hasSpdxTag htag
    obtain ⟨hstatus, hinfix⟩ :=
      relevant_of_finds hfinds (mem_commentsOf.mp hc) hrelevant
    rw [header_of_finds hfinds]
    exact ⟨hrelevant, hstatus, hinfix, exists_header?_of_tagged hc htag⟩

/-- A sigma at the end of a word, and a file with one comment. -/
theorem caseFoldings_agree_of_note :
    LowersTo "ΟΣ SPDX".toList "ος spdx".toList ∧
      (keywords.countP fun word => Text.contains word "ος spdx".toList) =
        (keywords.countP fun word =>
          Text.contains word (Text.lowerAscii "ΟΣ SPDX".toList)) ∧
      Survey.Finds ⟨{ extract := { joinComments := false } }, some .c⟩
        (treeOf "//SPDX-License-Identifier:".toUTF8) fileName
        [.comment (.onLine "SPDX-License-Identifier:".toList 1)] ∧
      (Survey.report ⟨{ extract := { joinComments := false } }, some .c⟩
        (treeOf "//SPDX-License-Identifier:".toUTF8) fileName).status = .relevant := by
  have hlowered : LowersTo "ΟΣ SPDX".toList "ος spdx".toList :=
    .cons (.beyond (by decide) (List.cons_ne_nil 'ο' [])
        (List.forall_mem_singleton.mpr (by decide)))
      (.cons (.beyond (by decide) (List.cons_ne_nil 'ς' [])
          (List.forall_mem_singleton.mpr (by decide)))
        (lowersTo_lower " SPDX".toList))
  have hsize : "//SPDX-License-Identifier:".toUTF8.size ≤ ({} : ScanLimits).maxFileBytes := by
    decide +kernel
  have hdecode : decodeUtf8? "//SPDX-License-Identifier:".toUTF8 =
      some "//SPDX-License-Identifier:".toList := by
    decide +kernel
  have hfinds : Survey.Finds ⟨{ extract := { joinComments := false } }, some .c⟩
      (treeOf "//SPDX-License-Identifier:".toUTF8) fileName
      [.comment (.onLine "SPDX-License-Identifier:".toList 1)] :=
    ⟨_, content_treeOf _ hsize hdecode, by decide +kernel⟩
  have hagree := caseFoldings_agree "ΟΣ SPDX".toList
    ⟨{ extract := { joinComments := false } }, some .c⟩
    (treeOf "//SPDX-License-Identifier:".toUTF8) fileName
  have htagged := hagree.2.2.2 _ hfinds (.onLine "SPDX-License-Identifier:".toList 1)
    (by decide) (by decide +kernel)
  exact ⟨hlowered, (hagree.1 _ hlowered).1, hfinds, htagged.2.1⟩

end Survey

end LicenseText
