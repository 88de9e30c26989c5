import LicenseText.Proofs.FileType.Detection
import LicenseText.Proofs.Text.Words

/-!
# Lines that name an interpreter

A script starts with a line that names its interpreter, and options may follow the name.
The type of the script is read off the last word of that line. So an interpreter without
options is always found, and one with options is found exactly when the last option ends
with the name of an interpreter for the same type.
-/

namespace LicenseText

namespace FileType

/-! ## Interpreters -/

/-- The program of the given name runs scripts of the type. -/
inductive Runs : Text → FileType → Prop
  | shell {name : Text} (hname : name ∈ shells) : Runs name .shell
  | python {name : Text} (hname : "python".toList <+: name) : Runs name .python
  | php {name : Text} (hname : "php".toList <+: name) : Runs name .php

section Interpreters

variable {name : Text} {type : FileType}

theorem ofInterpreter_of_runs (h : Runs name type) : ofInterpreter name = type := by
  cases h with
  | shell hname =>
      revert name
      decide
  | python hname => rw [ofInterpreter, if_pos (List.isPrefixOf_iff_prefix.mpr hname)]
  | php hname =>
      obtain ⟨rest, rfl⟩ := hname
      rfl

theorem runs_ofInterpreter (h : ofInterpreter name ≠ .unknown) :
    Runs name (ofInterpreter name) := by
  rw [ofInterpreter] at h ⊢
  by_cases hpython : "python".toList.isPrefixOf name = true
  · rw [if_pos hpython]
    exact .python (List.isPrefixOf_iff_prefix.mp hpython)
  · rw [if_neg hpython] at h ⊢
    by_cases hphp : "php".toList.isPrefixOf name = true
    · rw [if_pos hphp]
      exact .php (List.isPrefixOf_iff_prefix.mp hphp)
    · rw [if_neg hphp] at h ⊢
      by_cases hshell : shells.contains name = true
      · rw [if_pos hshell]
        exact .shell (List.contains_iff_mem.mp hshell)
      · rw [if_neg hshell] at h
        exact absurd rfl h

theorem Runs.ne_unknown (h : Runs name type) : type ≠ .unknown := by
  cases h <;> decide

theorem ofInterpreter_eq_iff_runs (htype : type ≠ .unknown) :
    ofInterpreter name = type ↔ Runs name type := by
  constructor
  · rintro rfl
    exact runs_ofInterpreter htype
  · exact ofInterpreter_of_runs

theorem Runs.ne_nil (h : Runs name type) : name ≠ [] := by
  rintro rfl
  exact h.ne_unknown (ofInterpreter_of_runs h).symm

/-- No interpreter has a name like an option. -/
theorem not_runs_of_hyphen (hname : name.head? = some '-') : ¬Runs name type := by
  obtain ⟨rest, rfl⟩ := List.head?_eq_some_iff.mp hname
  intro h
  cases h with
  | shell hname => simp [shells] at hname
  | python hname => simp at hname
  | php hname => simp at hname

/-- An option is no interpreter as a whole, but what stands behind its last slash may be. -/
theorem runs_lastName_iff {option : Text} (hhyphen : option.head? = some '-')
    (hname : (option.splitOn '/').getLast? = some name) :
    Runs name type ↔
      ∃ front name, option = front ++ '/' :: name ∧ '/' ∉ name ∧ Runs name type := by
  constructor
  · intro hruns
    by_cases hslash : '/' ∈ option
    · obtain ⟨front, last, rfl, hlast⟩ := exists_last_of_mem hslash
      rw [Text.getLast?_splitOn_append hlast] at hname
      obtain rfl := Option.some.inj hname
      exact ⟨front, last, rfl, hlast, hruns⟩
    · rw [List.splitOn_eq_singleton hslash] at hname
      obtain rfl : option = name := Option.some.inj hname
      exact absurd hruns (not_runs_of_hyphen hhyphen)
  · rintro ⟨front, last, rfl, hlast, hruns⟩
    rw [Text.getLast?_splitOn_append hlast] at hname
    rwa [← Option.some.inj hname]

end Interpreters

/-! ## Lines -/

/-- A line that names an interpreter. Behind the mark `#!` stand a folder and either the
interpreter, or the program `env` and the interpreter as the next word. Options follow. -/
structure InterpreterLine where
  /-- The blanks behind the mark. -/
  indent : Text := []
  /-- The folder of the program. -/
  folder : Text
  /-- The gap behind `env`, if that is the program. -/
  env : Option Text := none
  /-- The name of the interpreter. -/
  interpreter : Text
  /-- The options, each with the gap in front of it. -/
  options : List (Text × Text) := []
  /-- The blanks at the end of the line. -/
  trail : Text := []
  indent_blank : indent.IsBlank := by decide
  folder_solid : folder.IsSolid := by decide
  folder_ends : folder.getLast? = some '/' := by decide
  env_gap : ∀ gap ∈ env, gap.IsGap := by decide
  interpreter_solid : interpreter.IsSolid := by decide
  slash_not_mem : '/' ∉ interpreter := by decide
  options_gap : ∀ piece ∈ options, piece.1.IsGap := by decide
  options_solid : ∀ piece ∈ options, piece.2.IsSolid := by decide
  options_hyphen : ∀ piece ∈ options, piece.2.head? = some '-' := by decide
  trail_blank : trail.IsBlank := by decide

namespace InterpreterLine

variable (line : InterpreterLine)

def start : Text :=
  match line.env with
  | none => line.folder ++ line.interpreter
  | some gap => line.folder ++ "env".toList ++ (gap ++ line.interpreter)

def command : Text :=
  line.indent ++ (line.start ++ line.options.flatMap fun piece => piece.1 ++ piece.2)
    ++ line.trail

def text : Text := "#!".toList ++ line.command

def lastOption? : Option Text := line.options.getLast?.map Prod.snd

/-- The words of the program and the interpreter end with the name of the interpreter. -/
theorem exists_words_start (hname : line.interpreter ≠ []) :
    ∃ front word, Text.words line.start = front ++ [word] ∧
      (word.splitOn '/').getLast? = some line.interpreter := by
  obtain ⟨parent, hfolder⟩ := List.getLast?_eq_some_iff.mp line.folder_ends
  rw [start]
  cases henv : line.env with
  | none =>
      refine ⟨[], line.folder ++ line.interpreter, Text.words_of_isWord ⟨?_, ?_⟩, ?_⟩
      · simp [hname]
      · intro c hc
        rcases List.mem_append.mp hc with hc | hc
        · exact line.folder_solid c hc
        · exact line.interpreter_solid c hc
      · rw [hfolder, List.append_assoc]
        exact Text.getLast?_splitOn_append line.slash_not_mem parent
  | some gap =>
      dsimp only
      rw [Text.words_append_gap (line.env_gap gap henv),
        Text.words_of_isWord ⟨hname, line.interpreter_solid⟩]
      refine ⟨_, line.interpreter, rfl, ?_⟩
      rw [List.splitOn_eq_singleton line.slash_not_mem]
      rfl

theorem words_command :
    Text.words line.command = Text.words line.start ++ line.options.map Prod.snd := by
  rw [command, Text.words_append_blank line.trail_blank,
    Text.words_blank_append line.indent_blank, Text.words_append_flatMap]
  intro piece hpiece
  refine ⟨line.options_gap piece hpiece, ?_, line.options_solid piece hpiece⟩
  intro hnil
  have hhyphen := line.options_hyphen piece hpiece
  rw [hnil] at hhyphen
  contradiction

end InterpreterLine

/-! ## Detection -/

section Detect

variable {overrides : Overrides} {path : Bytes} {content command word name : Text}
  {type : FileType} {line : InterpreterLine}

theorem ofInterpreterLine_of_words
    (hcontent : content.lines.head? = some ("#!".toList ++ command))
    (hword : (Text.words command).getLast? = some word)
    (hname : (word.splitOn '/').getLast? = some name) :
    ofInterpreterLine content = ofInterpreter name := by
  have htrim : Text.trim ("#!".toList ++ command) = "#!".toList ++ command.trimEnd := by
    have hmark : Text.trimStart ("#!".toList ++ command) = "#!".toList ++ command := rfl
    rw [Text.trim, hmark]
    exact (Text.trimEnd_cons_solid (by decide) _).trans
      (congrArg _ (Text.trimEnd_cons_solid (by decide) _))
  rw [ofInterpreterLine, hcontent, Option.bind_some, htrim, Text.isPrefixOf?_append]
  dsimp only
  rw [Text.words_trimEnd, hword, Option.getD_some, hname]
  rfl

/-- A line without options names its interpreter. -/
theorem ofInterpreterLine_of_no_options (hcontent : content.lines.head? = some line.text)
    (hruns : Runs line.interpreter type) (hoptions : line.options = []) :
    ofInterpreterLine content = type := by
  obtain ⟨front, word, hwords, hname⟩ := line.exists_words_start hruns.ne_nil
  have hword : (Text.words line.command).getLast? = some word := by
    rw [line.words_command, hwords, hoptions]
    simp
  rw [ofInterpreterLine_of_words hcontent hword hname, ofInterpreter_of_runs hruns]

/-- With options the last of them takes the place of the interpreter. -/
theorem ofInterpreterLine_of_option {option : Text}
    (hcontent : content.lines.head? = some line.text) (hlast : line.lastOption? = some option)
    (hname : (option.splitOn '/').getLast? = some name) :
    ofInterpreterLine content = ofInterpreter name := by
  refine ofInterpreterLine_of_words hcontent ?_ hname
  have hne : line.options.map Prod.snd ≠ [] := by
    intro hnil
    rw [InterpreterLine.lastOption?, ← List.getLast?_map, hnil] at hlast
    contradiction
  rw [line.words_command, List.getLast?_append_of_ne_nil _ hne, List.getLast?_map]
  exact hlast

/-- An interpreter is found exactly when the last option, if there are options, ends with
the name of an interpreter for the same type behind a slash. -/
theorem detect_interpreterLine_iff (hpath : IsInconclusive overrides path)
    (hcontent : content.lines.head? = some line.text) (hruns : Runs line.interpreter type) :
    detect overrides path content = type ↔
      ∀ option ∈ line.lastOption?, ∃ front name, option = front ++ '/' :: name ∧ '/' ∉ name ∧
        Runs name type := by
  rw [detect_of_isInconclusive hpath]
  cases hlast : line.lastOption? with
  | none =>
      have hoptions : line.options = [] := by
        rw [InterpreterLine.lastOption?, Option.map_eq_none_iff] at hlast
        exact List.getLast?_eq_none_iff.mp hlast
      refine iff_of_true (ofInterpreterLine_of_no_options hcontent hruns hoptions) ?_
      intro option hoption
      contradiction
  | some option =>
      have hhyphen : option.head? = some '-' := by
        obtain ⟨piece, hpiece, rfl⟩ := Option.map_eq_some_iff.mp hlast
        exact line.options_hyphen piece (List.mem_of_getLast? hpiece)
      have hname : (option.splitOn '/').getLast? = some _ :=
        List.getLast?_eq_some_getLast (List.splitOn_ne_nil '/' option)
      rw [ofInterpreterLine_of_option hcontent hlast hname,
        ofInterpreter_eq_iff_runs hruns.ne_unknown, runs_lastName_iff hhyphen hname]
      constructor
      · rintro h option ⟨rfl⟩
        exact h
      · intro h
        exact h option rfl

/-- An option that ends like the path of an interpreter. -/
def pathOptionLine : InterpreterLine where
  folder := "/usr/bin/".toList
  env := some [' ']
  interpreter := "python3".toList
  options := [(['\t'], "-u".toList), ([' '], "-X/opt/python".toList)]

theorem detect_interpreterLine_of_path :
    IsInconclusive [] (Text.bytes "tool".toList) ∧
      (pathOptionLine.text ++ "\r\nx".toList).lines.head? = some pathOptionLine.text ∧
      Runs pathOptionLine.interpreter .python ∧
      detect [] (Text.bytes "tool".toList) (pathOptionLine.text ++ "\r\nx".toList) =
        .python := by
  have hnone : extensionText? (Text.bytes "tool".toList) = none := by decide +kernel
  have hpath : IsInconclusive [] (Text.bytes "tool".toList) := by
    intro extension hextension
    rw [hnone] at hextension
    contradiction
  have hcontent : (pathOptionLine.text ++ "\r\nx".toList).lines.head? =
      some pathOptionLine.text := by
    decide
  have hruns : Runs pathOptionLine.interpreter .python := .python (by decide)
  refine ⟨hpath, hcontent, hruns, (detect_interpreterLine_iff hpath hcontent hruns).mpr ?_⟩
  rintro option ⟨rfl⟩
  exact ⟨"-X/opt".toList, "python".toList, rfl, by decide, .python (by decide)⟩

def shellOptionLine : InterpreterLine where
  folder := "/bin/".toList
  interpreter := "sh".toList
  options := [([' '], "-e".toList)]

/-- The option keeps the shell from being found. -/
theorem detect_ne_of_option :
    IsInconclusive [] (Text.bytes "configure".toList) ∧
      shellOptionLine.text = "#!/bin/sh -e".toList ∧
      Text.lines "#!/bin/sh -e\n".toList = [shellOptionLine.text] ∧
      Runs shellOptionLine.interpreter .shell ∧
      detect [] (Text.bytes "configure".toList) "#!/bin/sh -e\n".toList = .unknown := by
  have hnone : extensionText? (Text.bytes "configure".toList) = none := by decide +kernel
  refine ⟨?_, rfl, by decide, .shell (by decide), by decide +kernel⟩
  intro extension hextension
  rw [hnone] at hextension
  contradiction

end Detect

end FileType

end LicenseText
