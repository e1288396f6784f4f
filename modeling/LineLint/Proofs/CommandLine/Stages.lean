import LineLint.Proofs.CommandLine.Flags
import LineLint.Proofs.Config.Settings

/- A command in stages: its words are read and checked, the variable that turns colour off is looked at,
   and then the command does what the words ask for. -/
namespace LineLint.CommandLine

variable {program : String} {verbose : Bool} {command : Command}

def checkOthers (files : Files) (others : List String) : Command → Except CallFault Unit
  | .lint => checkFiles files others
  | .rules => .ok ()

def checkedWords (command : Command) (files : Files) (line : List String) :
    Except CallFault (Option Words) := do
  let words ← (readWords command.forms true line).mapError .usage
  if words.has helpForm.name then return none
  checkValues files command.forms words
  checkOthers files words.others command
  return some words

theorem checked_words_iff {files : Files} {line : List String} {words : Words} :
    checkedWords command files line = .ok (some words) ↔
      readWords command.forms true line = .ok words ∧ words.has helpForm.name = false ∧
        checkValues files command.forms words = .ok () ∧
        checkOthers files words.others command = .ok () := by
  unfold checkedWords
  constructor
  · intro accepted
    obtain ⟨given, read, accepted⟩ := bind_eq_ok.mp accepted
    split at accepted
    · cases accepted
    · rename_i noHelp
      obtain ⟨⟨⟩, values, accepted⟩ := bind_eq_ok.mp accepted
      obtain ⟨⟨⟩, others, accepted⟩ := bind_eq_ok.mp accepted
      cases accepted
      exact ⟨map_error_eq_ok.mp read, Bool.eq_false_iff.mpr noHelp, values, others⟩
  · rintro ⟨read, noHelp, values, others⟩
    rw [read]
    simp only [map_error_ok, bind, Except.bind, noHelp, values, others]
    rfl

def Words.lintOptions (words : Words) (noColor : Bool) : LintOptions :=
  { files := words.others
    format := words.format
    excludeRules := patternsIn ((words.value? "--exclude-rules").getD "")
    minSeverity := ((words.value? "--min-severity").bind Severity.ofName?).getD .warning
    noColor := noColor
    config := words.value? "--config"
    profile := (words.value? "--profile").bind Config.profile? }

def Words.rulesOptions (words : Words) (noColor : Bool) : RulesOptions :=
  { format := words.format
    noColor := noColor
    category := (words.value? "--category").bind Category.ofName?
    severity := (words.value? "--severity").bind Severity.ofName? }

def performed (program : String) (environment : Environment) (verbose : Bool) (words : Words)
    (noColor : Bool) : Command → Run
  | .lint => lint verbose environment (words.lintOptions noColor)
  | .rules =>
      if words.others.isEmpty then listRules environment (words.rulesOptions noColor)
      else .refused (faultText program (some .rules) (.extraWords words.others))

def finished (program : String) (environment : Environment) (verbose : Bool) (command : Command) :
    Except CallFault (Option Words) → Run
  | .error (.usage fault) => .refused (faultText program (some command) fault)
  | .error (.unchecked fault) => ⟨[], .broken fault⟩
  | .ok none => ⟨[output (usageText program (some command))], .exit 0⟩
  | .ok (some words) =>
      match words.noColor environment.noColor with
      | .error fault => .refused (faultText program (some command) fault)
      | .ok noColor => performed program environment verbose words noColor command

def readOptions (setting : Option String) : Option Words → Except CallFault (Request LintOptions)
  | none => .ok .help
  | some words =>
      ((words.noColor setting).mapError .usage).map fun noColor =>
        .perform (words.lintOptions noColor)

theorem lint_read_eq (environment : Environment) (line : List String) :
    LintOptions.read environment line =
      checkedWords .lint environment.files line >>= readOptions environment.noColor := by
  unfold LintOptions.read checkedWords checkOthers Command.forms
  cases readWords lintForms true line with
  | error fault => rfl
  | ok words =>
    simp only [map_error_ok, bind, Except.bind]
    split
    · rfl
    · cases checkValues environment.files lintForms words with
      | error fault => rfl
      | ok =>
        cases checkFiles environment.files words.others with
        | error fault => rfl
        | ok =>
          simp only [readOptions, pure, Except.pure]
          cases words.noColor environment.noColor <;> rfl

theorem read_perform_iff {environment : Environment} {line : List String} {options : LintOptions} :
    LintOptions.read environment line = .ok (.perform options) ↔
      ∃ words noColor, checkedWords .lint environment.files line = .ok (some words) ∧
        words.noColor environment.noColor = .ok noColor ∧ words.lintOptions noColor = options := by
  rw [lint_read_eq, bind_eq_ok]
  constructor
  · rintro ⟨accepted, checked, read⟩
    cases accepted with
    | none => cases read
    | some words =>
      obtain ⟨noColor, asked, same⟩ := map_eq_ok.mp read
      cases same
      exact ⟨words, noColor, checked, map_error_eq_ok.mp asked, rfl⟩
  · rintro ⟨words, noColor, checked, asked, rfl⟩
    refine ⟨some words, checked, ?_⟩
    simp only [readOptions, asked]
    rfl

section Settled

variable {environment : Environment} {line : List String} {options : LintOptions} {loaded : Config}

theorem settled_runs {config : Config}
    (read : LintOptions.read environment line = .ok (.perform options))
    (load : environment.config options.config = .ok loaded)
    (settles : options.settle loaded = .ok config) :
    runCommand program environment verbose .lint line =
      lintFiles verbose environment options (Registry.builtin.select config).rules := by
  simp only [runCommand, read, answer, lint, load, settles]

theorem unsettled_refused {fault : SettingFault}
    (read : LintOptions.read environment line = .ok (.perform options))
    (load : environment.config options.config = .ok loaded)
    (fails : options.settle loaded = .error fault) :
    runCommand program environment verbose .lint line =
      .refused ("Error: " ++ fault.message) := by
  simp only [runCommand, read, answer, lint, load, fails]

end Settled

theorem lint_run_eq (environment : Environment) (line : List String) :
    runCommand program environment verbose .lint line =
      finished program environment verbose .lint (checkedWords .lint environment.files line) := by
  simp only [runCommand, lint_read_eq]
  cases checkedWords .lint environment.files line with
  | error fault => cases fault <;> rfl
  | ok accepted =>
    cases accepted with
    | none => rfl
    | some words =>
      simp only [finished, bind, Except.bind, readOptions]
      cases words.noColor environment.noColor <;> rfl

theorem rules_run_eq (environment : Environment) (line : List String) :
    runCommand program environment verbose .rules line =
      finished program environment verbose .rules (checkedWords .rules environment.files line) := by
  unfold runCommand RulesOptions.read checkedWords checkOthers Command.forms
  dsimp only
  cases readWords rulesForms true line with
  | error fault => rfl
  | ok words =>
    simp only [map_error_ok, bind, Except.bind]
    split
    · rfl
    · cases checkValues environment.files rulesForms words with
      | error fault => cases fault <;> rfl
      | ok =>
        simp only [finished, pure, Except.pure]
        cases words.noColor environment.noColor with
        | error fault => rfl
        | ok noColor =>
          unfold performed
          cases words.others.isEmpty <;> rfl

theorem run_command_eq (environment : Environment) (line : List String) :
    runCommand program environment verbose command line =
      finished program environment verbose command
        (checkedWords command environment.files line) := by
  cases command with
  | lint => exact lint_run_eq environment line
  | rules => exact rules_run_eq environment line

end LineLint.CommandLine
