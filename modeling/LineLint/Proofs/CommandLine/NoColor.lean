import LineLint.Proofs.CommandLine.Outcome

/- The variable that turns colour off, against the flag that does. Two readers look at it: the flag, whose
   value it is if the flag is not given, takes words that say yes or no and refuses others; what prints
   in colour takes any value at all. So the two come to the same but for values that the flag refuses. -/
namespace LineLint.CommandLine

section Variable

variable {value : String}

theorem value_uncolours (nonempty : value ≠ "") (noColor : Bool) :
    usesColor noColor (some value) = false := by
  simp [usesColor, nonempty]

theorem performed_uncoloured (nonempty : value ≠ "") (program : String) (environment : Environment)
    (verbose : Bool) (words : Words) (noColor : Bool) (command : Command) :
    performed program { environment with noColor := some value } verbose words noColor command =
      performed program { environment with noColor := none } verbose words.flagged true command := by
  have off : usesColor noColor (some value) = usesColor true none := value_uncolours nonempty noColor
  cases command with
  | lint =>
    simp only [performed, lint, lintFiles, Words.lintOptions, Words.format, value_flagged, off]
    rfl
  | rules =>
    simp only [performed, listRules, Words.rulesOptions, Words.format, value_flagged, off]
    rfl

theorem checked_flagged (command : Command) (files : Files) (line : List String) :
    checkedWords command files (noColorForm.name :: line) =
      (checkedWords command files line).map (Option.map Words.flagged) := by
  unfold checkedWords
  rw [read_flagged]
  cases readWords command.forms true line with
  | error fault => rfl
  | ok words =>
    have help : words.flagged.has helpForm.name = words.has helpForm.name :=
      has_flagged words (by decide)
    simp only [Except.map, map_error_ok, bind, Except.bind, help, check_values_flagged]
    split
    · rfl
    · cases checkValues files command.forms words with
      | error fault => rfl
      | ok =>
        have others : words.flagged.others = words.others := rfl
        rw [others]
        dsimp only
        cases checkOthers files words.others command <;> rfl

/-- The words of a command are read and pass every check that is made before the variable is looked at,
    and the flag is not among them. -/
structure AsksVariable (command : Command) (files : Files) (line : List String) (words : Words) :
    Prop where
  read : readWords command.forms true line = .ok words
  noHelp : words.has helpForm.name = false
  values : checkValues files command.forms words = .ok ()
  others : command = .lint → checkFiles files words.others = .ok ()
  noFlag : words.has noColorForm.name = false

theorem asks_variable_iff {command : Command} {files : Files} {line : List String} {words : Words} :
    AsksVariable command files line words ↔
      checkedWords command files line = .ok (some words) ∧ words.has noColorForm.name = false := by
  have checked (words : Words) : checkOthers files words.others command = .ok () ↔
      (command = .lint → checkFiles files words.others = .ok ()) := by
    cases command <;> simp [checkOthers]
  rw [checked_words_iff, checked]
  constructor
  · rintro ⟨read, noHelp, values, others, noFlag⟩
    exact ⟨⟨read, noHelp, values, others⟩, noFlag⟩
  · rintro ⟨⟨read, noHelp, values, others⟩, noFlag⟩
    exact ⟨read, noHelp, values, others, noFlag⟩

end Variable

section Refusals

variable {program : String} {command : Command}

def NoUsage (run : Run) : Prop :=
  ∀ p ∈ run.printed, p.stream = .errors → p.text.toList.head? ≠ some 'U'

theorem refused_no_usage {text : String} (head : text.toList.head? ≠ some 'U') :
    NoUsage (.refused text) := by
  intro p member _
  obtain rfl := List.mem_singleton.mp member
  exact head

theorem file_lines_no_usage {verbose : Bool} {files : Files} {rules : List Rule} {path : String} :
    ∀ p ∈ fileLines verbose files rules path, p.text.toList.head? ≠ some 'U' := by
  intro p member
  unfold fileLines at member
  split at member
  · obtain rfl := List.mem_singleton.mp member
    simp [errorText, String.toList_append]
  · split at member
    · obtain ⟨event, _, rfl⟩ := List.mem_map.mp member
      unfold eventLine errorText
      split <;> simp [String.toList_append]
    · cases member

theorem lint_files_no_usage (verbose : Bool) (environment : Environment) (options : LintOptions)
    (rules : List Rule) : NoUsage (lintFiles verbose environment options rules) := by
  intro p member errors
  rcases List.mem_append.mp member with ofFile | reported
  · obtain ⟨path, _, told⟩ := List.mem_flatMap.mp ofFile
    exact file_lines_no_usage p told
  · unfold reportOutput at reported
    split at reported
    · obtain rfl := List.mem_singleton.mp reported
      cases errors
    · rcases List.mem_append.mp reported with line | last
      · obtain ⟨text, _, rfl⟩ := List.mem_map.mp line
        cases errors
      · obtain rfl := List.mem_singleton.mp last
        exact summary_line_head rfl (by decide) (by decide) _ _ _

theorem lint_no_usage (verbose : Bool) (environment : Environment) (options : LintOptions) :
    NoUsage (lint verbose environment options) := by
  unfold lint
  split
  · intro p member
    cases member
  · exact refused_no_usage (by simp [String.toList_append])
  · split
    · exact refused_no_usage (by simp [String.toList_append])
    · exact lint_files_no_usage verbose environment options _

theorem list_rules_no_usage (environment : Environment) (options : RulesOptions) :
    NoUsage (listRules environment options) := by
  intro p member errors
  obtain rfl := List.mem_singleton.mp member
  cases errors

theorem refusal_tells_usage (name value : String) :
    ¬ NoUsage (.refused (faultText program (some command) (.notBoolean name value))) := by
  intro quiet
  refine quiet _ (List.mem_singleton.mpr rfl) rfl ?_
  simp [errorText, faultText, UsageFault.showsUsage, usageText, String.toList_append]

theorem refused_apart {text text' : String} (same : Run.refused text = .refused text') :
    text = text' := by
  simpa [Run.refused, errorText] using same

theorem extra_words_head (words : List String) :
    (UsageFault.extraWords words).message.toList.head? = some 'G' := by
  change ("Got unexpected extra " ++ _ ++ _ ++ _ ++ _).toList.head? = some 'G'
  simp only [String.toList_append]
  rfl

theorem not_boolean_head (name value : String) :
    (UsageFault.notBoolean name value).message.toList.head? = some 'I' := by
  change ("Invalid value for " ++ _ ++ _ ++ _).toList.head? = some 'I'
  simp only [String.toList_append]
  rfl

theorem refusals_apart (name value : String) (words : List String) :
    faultText program (some command) (.extraWords words) ≠
      faultText program (some command) (.notBoolean name value) := by
  simp only [faultText, UsageFault.showsUsage, if_true, ne_eq, String.append_right_inj]
  intro same
  have heads := congrArg (fun text => text.toList.head?) same
  simp only [extra_words_head, not_boolean_head] at heads
  cases heads

theorem performed_not_refused (environment : Environment) (verbose : Bool) (words : Words)
    (noColor : Bool) (name value : String) :
    performed program environment verbose words noColor command ≠
      .refused (faultText program (some command) (.notBoolean name value)) := by
  intro same
  cases command with
  | lint =>
    have quiet := lint_no_usage verbose environment (words.lintOptions noColor)
    exact refusal_tells_usage name value (Eq.subst same quiet)
  | rules =>
    simp only [performed] at same
    split at same
    · have quiet := list_rules_no_usage environment (words.rulesOptions noColor)
      exact refusal_tells_usage name value (Eq.subst same quiet)
    · -- Both refusals begin with the usage and go on with what is wrong.
      exact refusals_apart name value words.others (refused_apart same)

end Refusals

section Run

variable {program : String} {front rest : List String} {command : Command} {value : String}

theorem variable_refused {words : Words} (noFlag : words.has noColorForm.name = false)
    (unknown : booleanOf? value = none) :
    words.noColor (some value) = .error (.notBoolean noColorForm.name value) := by
  unfold Words.noColor
  simp only [noFlag, unknown]
  rfl

theorem variable_taken {words : Words}
    (fine : ¬ (words.has noColorForm.name = false ∧ booleanOf? value = none)) :
    ∃ noColor, words.noColor (some value) = .ok noColor := by
  unfold Words.noColor
  split
  · exact ⟨true, rfl⟩
  · rename_i noFlag
    dsimp only
    split
    · rename_i answer _
      exact ⟨answer, rfl⟩
    · rename_i unknown
      exact absurd ⟨Bool.eq_false_iff.mpr noFlag, unknown⟩ fine

theorem flag_taken (words : Words) (setting : Option String) :
    words.flagged.noColor setting = .ok true := by
  have given : words.flagged.has noColorForm.name = true := by
    simp [Words.has, Words.flagged, Words.withOptions]
  unfold Words.noColor
  rw [if_pos given]

theorem finished_uncoloured (nonempty : value ≠ "") (environment : Environment) (verbose : Bool)
    {files : Files} {line : List String}
    (fine : ¬ (booleanOf? value = none ∧ ∃ words, AsksVariable command files line words)) :
    finished program { environment with noColor := some value } verbose command
        (checkedWords command files line) =
      finished program { environment with noColor := none } verbose command
        (checkedWords command files (noColorForm.name :: line)) := by
  rw [checked_flagged]
  cases checked : checkedWords command files line with
  | error fault => cases fault <;> rfl
  | ok accepted =>
    cases accepted with
    | none => rfl
    | some words =>
      have known : ¬ (words.has noColorForm.name = false ∧ booleanOf? value = none) := by
        rintro ⟨noFlag, unknown⟩
        exact fine ⟨unknown, words, asks_variable_iff.mpr ⟨checked, noFlag⟩⟩
      obtain ⟨noColor, taken⟩ := variable_taken known
      simp only [finished, Except.map, Option.map_some, taken, flag_taken]
      exact performed_uncoloured nonempty program environment verbose words noColor command

/-- Any value of the variable does what the flag does where the variable is not set, up to the last
    character that is printed, but for values that are no boolean words: these are refused as a value of
    the flag by every call that gets as far as to look at the variable. -/
theorem colour_variable_as_flag (calls : Calls program front command rest) (nonempty : value ≠ "")
    (environment : Environment) :
    let set := run program { environment with noColor := some value }
      (front ++ command.name :: rest)
    let flagged := run program { environment with noColor := none }
      (front ++ command.name :: noColorForm.name :: rest)
    (set = flagged ↔
      ¬ (booleanOf? value = none ∧ ∃ words, AsksVariable command environment.files rest words)) ∧
    ∀ words, booleanOf? value = none → AsksVariable command environment.files rest words →
      set = .refused (faultText program (some command) (.notBoolean noColorForm.name value)) := by
  intro set flagged
  obtain ⟨verbose, runs⟩ := called_runs calls
  have ofSet : set = finished program { environment with noColor := some value } verbose command
      (checkedWords command environment.files rest) :=
    (runs _ rest).trans (run_command_eq _ rest)
  have ofFlagged : flagged = finished program { environment with noColor := none } verbose command
      (checkedWords command environment.files (noColorForm.name :: rest)) :=
    (runs _ _).trans (run_command_eq _ _)
  have refused (words : Words) (unknown : booleanOf? value = none)
      (asks : AsksVariable command environment.files rest words) :
      set = .refused (faultText program (some command) (.notBoolean noColorForm.name value)) := by
    obtain ⟨checked, noFlag⟩ := asks_variable_iff.mp asks
    rw [ofSet, checked]
    simp only [finished, variable_refused noFlag unknown]
  refine ⟨⟨?_, ?_⟩, refused⟩
  · rintro same ⟨unknown, words, asks⟩
    rw [refused words unknown asks, ofFlagged, checked_flagged, (asks_variable_iff.mp asks).1] at same
    simp only [finished, Except.map, Option.map_some, flag_taken] at same
    exact performed_not_refused _ _ _ _ _ _ same.symm
  · intro fine
    rw [ofSet, ofFlagged]
    exact finished_uncoloured nonempty environment verbose fine

end Run

def cleanFile : Environment :=
  let tree : FileTree := ⟨"<root>", [(["a.swift"], .file (Text.encode "let a = 1\n".toList))], []⟩
  ⟨tree.find, .ok (Path.upward tree.currentPath), none, .unlimited⟩

theorem no_turns_colour_off :
    Calls "stylint" ["-v"] .lint ["--format", "text", "a.swift"] ∧ "0" ≠ "" ∧ "banana" ≠ "" ∧
      booleanOf? "0" = some false ∧ booleanOf? "banana" = none ∧
      run "stylint" { cleanFile with noColor := some "0" }
          ["-v", "lint", "--format", "text", "a.swift"] =
        run "stylint" { cleanFile with noColor := none }
          ["-v", "lint", "--no-color", "--format", "text", "a.swift"] ∧
      run "stylint" { cleanFile with noColor := some "banana" }
          ["-v", "lint", "--format", "text", "a.swift"] =
        .refused (faultText "stylint" (some .lint) (.notBoolean "--no-color" "banana")) := by
  have calls : Calls "stylint" ["-v"] .lint ["--format", "text", "a.swift"] := ⟨_, rfl, rfl, rfl⟩
  have zero : booleanOf? "0" = some false := by decide
  have banana : booleanOf? "banana" = none := by decide
  have asks : AsksVariable .lint cleanFile.files ["--format", "text", "a.swift"]
      ⟨[⟨"--format", some "text"⟩], ["a.swift"]⟩ := by
    constructor
    · rfl
    · rfl
    · rfl
    · exact fun _ => rfl
    · rfl
  refine ⟨calls, by decide, by decide, zero, banana, ?_, ?_⟩
  · refine (colour_variable_as_flag calls (by decide) cleanFile).1.mpr ?_
    rintro ⟨unknown, _⟩
    rw [zero] at unknown
    cases unknown
  · exact (colour_variable_as_flag calls (by decide) cleanFile).2 _ banana asks

/-- A value that is no boolean word turns colour off where it is printed, but is refused by the flag. -/
theorem colour_word_refused :
    usesColor false (some "banana") = false ∧
      run "stylint" { cleanFile with noColor := some "banana" } ["lint", "a.swift"] =
        .refused ("Usage: stylint lint [OPTIONS] FILES...\nTry 'stylint lint -h' for help.\n\n" ++
          "Error: Invalid value for '--no-color': 'banana' is not a valid boolean. " ++
          "Recognized values: , 0, 1, f, false, n, no, off, on, t, true, y, yes") ∧
      run "stylint" { cleanFile with noColor := none } ["lint", "--no-color", "a.swift"] =
        ⟨[errorText "No violations found."], .exit 0⟩ ∧
      (run "stylint" { cleanFile with noColor := some "banana" } ["rules"]).exitCode = 2 ∧
      (run "stylint" { cleanFile with noColor := none } ["rules", "--no-color"]).exitCode = 0 := by
  decide +kernel

end LineLint.CommandLine
