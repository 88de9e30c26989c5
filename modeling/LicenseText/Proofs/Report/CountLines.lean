import LicenseText.Proofs.Report.LabelledNumber

/-!
# The counts that a terminal report shows

The line of a quiet report and the box above the tables show the same six counts, each behind
its label, whether or not the labels and counts are emphasised. The summary of types behind
the second count has no capitals, so its numbers are not taken for counts.
-/

namespace LicenseText

namespace Report

def Counts.labelled (counts : Counts) : List (Text × Nat) :=
  [("Files".toList, counts.total), ("Relevant".toList, counts.relevant),
    ("Clean".toList, counts.clean), ("Unsupported".toList, counts.unsupported),
    ("Skipped".toList, counts.skipped), ("Failed".toList, counts.failed)]

/-! ## Labels -/

/-- A label: a word of letters that starts with a capital and is shorter than its column. -/
structure IsLabel (label : Text) : Prop where
  capital : startsWithCapital label = true
  letters : label.all Char.isAlpha = true
  short : label.length < 16

instance (label : Text) : Decidable (IsLabel label) :=
  decidable_of_iff
    (startsWithCapital label = true ∧ label.all Char.isAlpha = true ∧ label.length < 16)
    ⟨fun ⟨a, b, c⟩ => ⟨a, b, c⟩, fun ⟨a, b, c⟩ => ⟨a, b, c⟩⟩

theorem not_isBlank_of_isAlpha {c : Char} (h : c.isAlpha = true) : isBlank c = false := by
  have hrange : 65 ≤ c.toNat ∧ c.toNat ≤ 90 ∨ 97 ≤ c.toNat ∧ c.toNat ≤ 122 := by
    rcases Bool.or_eq_true_iff.mp h with hupper | hlower
    · exact .inl (of_decide_eq_true hupper)
    · obtain ⟨hlow, hhigh⟩ := Bool.and_eq_true_iff.mp hlower
      exact .inr ⟨of_decide_eq_true hlow, of_decide_eq_true hhigh⟩
  simp [isBlank]
  omega

namespace IsLabel

variable {label : Text}

theorem isAlpha_of_mem (h : IsLabel label) {c : Char} (hc : c ∈ label) : c.isAlpha = true :=
  List.all_eq_true.mp h.letters c hc

theorem isWord (h : IsLabel label) : label.IsWord where
  ne_nil := by
    rintro rfl
    exact absurd h.capital (by decide)
  solid := fun c hc => not_isBlank_of_isAlpha (h.isAlpha_of_mem hc)

theorem escape_not_mem (h : IsLabel label) : '\x1b' ∉ label :=
  fun hc => absurd (h.isAlpha_of_mem hc) (by decide)

theorem takeWhile_append_colon (h : IsLabel label) :
    (label ++ [':']).takeWhile Char.isAlpha = label := by
  rw [List.takeWhile_append_of_pos fun c => h.isAlpha_of_mem]
  exact List.append_nil label

theorem startsWithCapital_append (h : IsLabel label) (t : Text) :
    startsWithCapital (label ++ t) = true := by
  obtain ⟨c, rest, rfl⟩ := List.exists_cons_of_ne_nil h.isWord.ne_nil
  exact h.capital

end IsLabel

theorem visibleAs_spaces (k : Nat) :
    Text.VisibleAs (List.replicate k ' ') (List.replicate k ' ') :=
  Text.visibleAs_self fun h => absurd (List.eq_of_mem_replicate h) (by decide)

theorem isBlank_spaces (k : Nat) : Text.IsBlank (List.replicate k ' ') := by
  intro c hc
  rw [List.eq_of_mem_replicate hc]
  rfl

theorem isGap_spaces (k : Nat) : Text.IsGap (List.replicate (k + 1) ' ') :=
  ⟨List.cons_ne_nil _ _, isBlank_spaces (k + 1)⟩

/-! ## The quiet report -/

section Quiet

variable {label shown : Text} {n : Nat} {c : Char}

/-- A count behind its label in the quiet report. -/
theorem shows_quietCount (k : Nat) (hlabel : IsLabel label)
    (hshown : shown.VisibleAs (Text.ofNat n)) (hc : isBlank c = true) :
    Shows (List.replicate k ' ' ++ (label ++ [':'] ++ ' ' :: (shown ++ [c]))) [(label, n)] := by
  have hcolon : Text.VisibleAs (label ++ [':', ' ']) (label ++ [':', ' ']) :=
    Text.visibleAs_self (by simp [hlabel.escape_not_mem])
  have hend : Text.VisibleAs [c] [c] := by
    refine Text.visibleAs_self fun h => ?_
    rw [← List.mem_singleton.mp h] at hc
    exact absurd hc (by decide)
  have hplain := (visibleAs_spaces k).append (hcolon.append (hshown.append hend))
  have hword : Text.IsWord (label ++ [':']) := by
    refine ⟨by simp, List.forall_mem_append.mpr ⟨hlabel.isWord.solid, ?_⟩⟩
    exact List.forall_mem_singleton.mpr rfl
  refine Shows.of_visibleAs
    (List.replicate k ' ' ++ (label ++ [':'] ++ ' ' :: Text.ofNat n)) (c := c) ?_ hc ?_
  · simpa using hplain
  · intro label?
    rw [Text.words_blank_append (isBlank_spaces k), Text.words_append_cons (c := ' ') rfl,
      Text.words_of_isWord hword, Text.words_of_isWord (isWord_ofNat n)]
    have hentry := labelledFrom_entry [] (label ++ [':']) [] [] (by simp)
      (hlabel.startsWithCapital_append _) (by simp) (by simp) n label?
    rwa [hlabel.takeWhile_append_colon] at hentry

end Quiet

theorem shows_quietText (color : Bool) (reports : List Report) :
    Shows (quietText color reports) (counts reports).labelled := by
  have hplain (n : Nat) : Text.VisibleAs (Text.ofNat n) (Text.ofNat n) :=
    Text.visibleAs_self (escape_not_mem_ofNat n)
  have happly (emphasis : Emphasis) (n : Nat) :
      (emphasis.apply color (Text.ofNat n)).VisibleAs (Text.ofNat n) :=
    Text.visibleAs_apply emphasis color (escape_not_mem_ofNat n)
  have hfiles : IsLabel "Files".toList := by decide
  have hrelevant : IsLabel "Relevant".toList := by decide
  have hclean : IsLabel "Clean".toList := by decide
  have hunsupported : IsLabel "Unsupported".toList := by decide
  have hskipped : IsLabel "Skipped".toList := by decide
  have hfailed : IsLabel "Failed".toList := by decide
  have hall := (shows_quietCount 0 hfiles (hplain (counts reports).total) (c := ' ') rfl).append
    ((shows_quietCount 1 hrelevant (happly .green (counts reports).relevant) (c := ' ') rfl).append
    ((shows_quietCount 1 hclean (hplain (counts reports).clean) (c := ' ') rfl).append
    ((shows_quietCount 1 hunsupported (happly .dimmed (counts reports).unsupported)
      (c := ' ') rfl).append
    ((shows_quietCount 1 hskipped (happly .yellow (counts reports).skipped) (c := ' ') rfl).append
    (shows_quietCount 1 hfailed (happly .red (counts reports).failed) (c := '\n') rfl)))))
  convert hall using 1
  · unfold quietText
    simp
  · rfl

/-! ## Lines of the box -/

section Box

variable {text plain sign label word : Text} {mark : Char} {entries : List (Text × Nat)}

/-- A line of the box shows what its text shows between the two sides. -/
theorem shows_boxLine (hplain : text.VisibleAs plain)
    (hentries : ∀ label?, labelledFrom label? (['│'] :: (plain.words ++ [['│']])) = entries) :
    Shows (boxLine text) entries := by
  have hleft : Text.VisibleAs " │  ".toList " │  ".toList := Text.visibleAs_self (by decide)
  have hright : Text.VisibleAs " │\n".toList " │\n".toList := Text.visibleAs_self (by decide)
  have hline := hleft.append ((hplain.append (visibleAs_spaces (48 - text.length))).append hright)
  -- the padding counts the characters of codes, too, so it is only known to be a gap
  have hwords : Text.words (" │ ".toList ++ ' ' ::
      (plain ++ (List.replicate (48 - text.length + 1) ' ' ++ ['│']))) =
      ['│'] :: (plain.words ++ [['│']]) := by
    rw [Text.words_append_cons rfl, Text.words_append_gap (isGap_spaces _)]
    rfl
  refine Shows.of_visibleAs (" │ ".toList ++ ' ' ::
    (plain ++ (List.replicate (48 - text.length + 1) ' ' ++ ['│']))) (c := '\n') ?_ rfl ?_
  · convert hline using 1
    · simp [boxLine, padRight]
    · simp [List.replicate_succ']
  · rwa [hwords]

theorem visibleAs_boxCount (hsign : sign.VisibleAs plain) (hlabel : IsLabel label) (n : Nat) :
    (boxCount sign label n).VisibleAs (boxCount plain label n) := by
  have hrest : '\x1b' ∉ "  ".toList ++ (padRight 16 label ++ (": ".toList ++ padLeft 4 n)) := by
    simp [padRight, padLeft, hlabel.escape_not_mem, escape_not_mem_ofNat]
  convert hsign.append (Text.visibleAs_self hrest) using 1
  · simp [boxCount]
  · simp [boxCount]

theorem words_boxCount (hsign : sign.IsWord) (hlabel : IsLabel label) (n : Nat) :
    (boxCount sign label n).words = [sign, label, [':'], Text.ofNat n] := by
  obtain ⟨k, hk⟩ := Nat.exists_eq_succ_of_ne_zero (Nat.sub_ne_zero_of_lt hlabel.short)
  have hcount : boxCount sign label n = sign ++ ("  ".toList ++ (label ++
      (List.replicate (k + 1) ' ' ++ ([':'] ++
        (List.replicate (4 - (Text.ofNat n).length + 1) ' ' ++ Text.ofNat n))))) := by
    simp [boxCount, padRight, padLeft, hk, List.replicate_succ]
  rw [hcount, Text.words_append_gap (by decide), Text.words_append_gap (isGap_spaces k),
    Text.words_append_gap (isGap_spaces _), Text.words_of_isWord hsign,
    Text.words_of_isWord hlabel.isWord, Text.words_of_isWord (isWord_ofNat n)]
  rfl

/-- A sign in front of a label: a character that is neither a blank nor a digit. -/
structure IsSign (mark : Char) : Prop where
  solid : isBlank mark = false
  not_number : number? 10 [mark] = none

/-- The line of a count in the box. Nothing behind the count has a capital. -/
theorem shows_countLine (behind : Text) (after : List Text) (hmark : IsSign mark)
    (hlabel : IsLabel label) (hsign : sign.VisibleAs [mark]) (n : Nat)
    (hbehind : '\x1b' ∉ behind)
    (hwords : (boxCount [mark] label n ++ behind).words =
      (boxCount [mark] label n).words ++ after)
    (hafter : ∀ word ∈ after, startsWithCapital word = false) :
    Shows (boxLine (boxCount sign label n ++ behind)) [(label, n)] := by
  have hword : Text.IsWord [mark] := ⟨by simp, by simpa [Text.IsSolid] using hmark.solid⟩
  have hplain := (visibleAs_boxCount hsign hlabel n).append (Text.visibleAs_self hbehind)
  refine shows_boxLine hplain fun label? => ?_
  have hnumber : ∀ word ∈ [['│'], [mark]], number? 10 word = none := by
    simpa using ⟨rfl, hmark.not_number⟩
  have hside : ∀ word ∈ after ++ [['│']], startsWithCapital word = false :=
    List.forall_mem_append.mpr ⟨hafter, by decide⟩
  have hentry := labelledFrom_entry [['│'], [mark]] label [[':']] (after ++ [['│']]) hnumber
    hlabel.capital (by decide) hside n label?
  rw [List.takeWhile_eq_self_iff.mpr fun c => hlabel.isAlpha_of_mem] at hentry
  rw [hwords, words_boxCount hword hlabel]
  simpa using hentry

/-- The line of a count with nothing behind it. -/
theorem shows_plainCountLine (hmark : IsSign mark) (hlabel : IsLabel label)
    (hsign : sign.VisibleAs [mark]) (n : Nat) :
    Shows (boxLine (boxCount sign label n)) [(label, n)] := by
  have hline := shows_countLine [] [] hmark hlabel hsign n (by simp) (by simp) (by simp)
  rwa [List.append_nil] at hline

theorem shows_totalLine (n : Nat) :
    Shows (boxLine ("Files scanned      : ".toList ++ Text.ofNat n)) [("Files".toList, n)] := by
  have hfront : '\x1b' ∉ "Files scanned      : ".toList := by decide
  have hplain := (Text.visibleAs_self hfront).append
    (Text.visibleAs_self (escape_not_mem_ofNat n))
  have hwords : Text.words ("Files scanned      : ".toList ++ Text.ofNat n) =
      ["Files".toList, "scanned".toList, [':'], Text.ofNat n] := by
    have hblank : "Files scanned      : ".toList = "Files scanned      :".toList ++ [' '] := rfl
    rw [hblank, List.append_assoc, List.singleton_append, Text.words_append_cons rfl,
      Text.words_of_isWord (isWord_ofNat n)]
    rfl
  refine shows_boxLine hplain fun label? => ?_
  rw [hwords]
  exact labelledFrom_entry [['│']] "Files".toList ["scanned".toList, [':']] [['│']]
    (by decide) rfl (by decide) (by decide) n label?

/-- Lines without numbers. -/
theorem shows_nothing (plain : Text) (hplain : text.VisibleAs (plain ++ ['\n']))
    (hwords : ∀ word ∈ plain.words, number? 10 word = none) : Shows text [] :=
  Shows.of_visibleAs plain hplain rfl fun label? => labelledFrom_front hwords label?

theorem shows_banner (color : Bool) : Shows (banner color) [] := by
  have hbefore : Text.VisibleAs "\n ".toList "\n ".toList := Text.visibleAs_self (by decide)
  have hname := Text.visibleAs_apply .bold color (t := programName) (by decide)
  have hafter : Text.VisibleAs (" v".toList ++ programVersion ++ "\n\n".toList)
      (" v".toList ++ programVersion ++ "\n\n".toList) := Text.visibleAs_self (by decide)
  refine shows_nothing "\n license-literals v0.1.0\n".toList ?_ (by decide)
  convert hbefore.append (hname.append hafter) using 1
  simp [banner]
  rfl

/-- The title of the box. -/
theorem shows_title (color : Bool) :
    Shows (" │  ".toList ++ Emphasis.bold.apply color (padRight 48 "SUMMARY".toList) ++
      " │\n".toList) [] := by
  have hleft : Text.VisibleAs " │  ".toList " │  ".toList := Text.visibleAs_self (by decide)
  have hright : Text.VisibleAs " │\n".toList " │\n".toList := Text.visibleAs_self (by decide)
  have htitle := Text.visibleAs_apply .bold color (t := padRight 48 "SUMMARY".toList) (by decide)
  exact shows_nothing (" │  ".toList ++ padRight 48 "SUMMARY".toList ++ " │".toList)
    ((hleft.append htitle).append hright) (by decide)

/-! ## The box -/

/-- A character that starts neither a label nor a code. -/
def isCommon (c : Char) : Bool := !c.isUpper && c != '\x1b'

theorem all_isCommon_ofNat (n : Nat) : (Text.ofNat n).all isCommon = true := by
  refine List.all_eq_true.mpr fun c hc => ?_
  have hescape : c ≠ '\x1b' := by
    rintro rfl
    exact escape_not_mem_ofNat n hc
  rw [isCommon, isUpper_of_isDigit (isDigit_of_mem_ofNat hc), bne_iff_ne.mpr hescape]
  rfl

theorem all_isCommon_showTypeCount (entry : FileType × Nat) :
    (showTypeCount entry).all isCommon = true := by
  have hname : (shortName entry.1).all isCommon = true := by cases entry.1 <;> decide
  rw [showTypeCount, List.all_append, List.all_append, List.all_append, hname,
    all_isCommon_ofNat]
  decide

theorem all_isCommon_typeSummary (reports : List Report) :
    (typeSummary reports).all isCommon = true := by
  rw [typeSummary]
  split
  · rfl
  · refine List.all_eq_true.mpr fun c hc => ?_
    rw [List.cons_append, List.mem_cons, List.mem_append, List.mem_singleton] at hc
    rcases hc with rfl | hc | rfl
    · rfl
    · rcases Text.mem_intercalate hc with hsep | ⟨t, ht, hc⟩
      · have hcomma : ", ".toList.all isCommon = true := by decide
        exact List.all_eq_true.mp hcomma c hsep
      · obtain ⟨entry, -, rfl⟩ := List.mem_map.mp ht
        exact List.all_eq_true.mp (all_isCommon_showTypeCount entry) c hc
    · rfl

theorem not_startsWithCapital_of_mem_typeSummary {reports : List Report}
    (hword : word ∈ (typeSummary reports).words) : startsWithCapital word = false := by
  cases word with
  | nil => rfl
  | cons c word =>
      have hc := Text.mem_of_mem_words hword List.mem_cons_self
      have hcommon := List.all_eq_true.mp (all_isCommon_typeSummary reports) c hc
      rw [isCommon, Bool.and_eq_true, Bool.not_eq_true'] at hcommon
      exact hcommon.1

theorem shows_relevantLine (color : Bool) (reports : List Report) (n : Nat) :
    Shows (boxLine (boxCount (Emphasis.green.apply color ['§']) "Relevant".toList n ++
      ("  ".toList ++ typeSummary reports))) [("Relevant".toList, n)] := by
  have hbehind : '\x1b' ∉ "  ".toList ++ typeSummary reports := by
    intro h
    rcases List.mem_append.mp h with h | h
    · exact absurd h (by decide)
    · exact absurd (List.all_eq_true.mp (all_isCommon_typeSummary reports) _ h) (by decide)
  have hgap : Text.IsGap "  ".toList := by decide
  exact shows_countLine _ (typeSummary reports).words ⟨rfl, rfl⟩ (by decide)
    (Text.visibleAs_apply .green color (by decide)) n hbehind
    (Text.words_append_gap hgap _ _) fun _ => not_startsWithCapital_of_mem_typeSummary

theorem shows_summaryBox (color : Bool) (reports : List Report) :
    Shows (summaryBox color reports) (counts reports).labelled := by
  have hdot : IsSign '·' := ⟨rfl, rfl⟩
  have hwarning : IsSign '⚠' := ⟨rfl, rfl⟩
  have hcross : IsSign '✗' := ⟨rfl, rfl⟩
  have hplain : Text.VisibleAs ['·'] ['·'] := Text.visibleAs_self (by decide)
  have hyellow : (Emphasis.yellow.apply color ['⚠']).VisibleAs ['⚠'] :=
    Text.visibleAs_apply .yellow color (by decide)
  have hred : (Emphasis.red.apply color ['✗']).VisibleAs ['✗'] :=
    Text.visibleAs_apply .red color (by decide)
  have hclean : IsLabel "Clean".toList := by decide
  have hunsupported : IsLabel "Unsupported".toList := by decide
  have hskipped : IsLabel "Skipped".toList := by decide
  have hfailed : IsLabel "Failed".toList := by decide
  have htop : Shows (boxEdge '┌' '┐') [] :=
    shows_nothing (' ' :: '┌' :: List.replicate 52 '─' ++ ['┐'])
      (Text.visibleAs_self (by decide)) (by decide)
  have hbottom : Shows (boxEdge '└' '┘' ++ ['\n']) [] :=
    shows_nothing (boxEdge '└' '┘') (Text.visibleAs_self (by decide)) (by decide)
  have hall := htop.append ((shows_title color).append
    ((shows_totalLine (counts reports).total).append
    ((shows_relevantLine color reports (counts reports).relevant).append
    ((shows_plainCountLine hdot hclean hplain (counts reports).clean).append
    ((shows_plainCountLine hdot hunsupported hplain (counts reports).unsupported).append
    ((shows_plainCountLine hwarning hskipped hyellow (counts reports).skipped).append
    ((shows_plainCountLine hcross hfailed hred (counts reports).failed).append hbottom)))))))
  convert hall using 1
  · unfold summaryBox
    simp
  · rfl

end Box

end Report

end LicenseText
