import LineLint.Files.Tree
import LineLint.Proofs.CommandLine.Stages
import LineLint.Proofs.Scan.Faults
import LineLint.Proofs.Text.Numbers

/- What a run over files prints and how it ends. Every file is reported with the result it has alone, or
   passed over with one message; the report comes last, and the exit code tells the worst of what was
   met. The order of the files, the format and the severities shown have no part in that code. -/
namespace LineLint.CommandLine

/-- Files taken in order: the reports on those that can be scanned, and the faults of the others. -/
inductive Scans (files : Files) (rules : List Rule) :
    List String → List FileReport → List InputFault → Prop
  | done : Scans files rules [] [] []
  | reported {path : String} {result : ScanResult} {paths : List String}
      {reports : List FileReport} {faults : List InputFault}
      (scanned : scanFile files rules path = .ok result)
      (later : Scans files rules paths reports faults) :
      Scans files rules (path :: paths) (⟨path, result⟩ :: reports) faults
  | passedOver {path : String} {fault : InputFault} {paths : List String}
      {reports : List FileReport} {faults : List InputFault}
      (failed : scanFile files rules path = .error fault)
      (later : Scans files rules paths reports faults) :
      Scans files rules (path :: paths) reports (fault :: faults)

def Printed.TellsFault (printed : Printed) : Prop :=
  printed.stream = .errors ∧ "Error: ".toList <+: printed.text.toList

instance (printed : Printed) : Decidable printed.TellsFault :=
  inferInstanceAs (Decidable (_ ∧ _))

def faultTexts (printed : List Printed) : List String :=
  (printed.filter fun p => p.TellsFault).map Printed.text

section Texts

theorem not_tells_of_head {printed : Printed} (head : printed.text.toList.head? ≠ some 'E') :
    ¬ printed.TellsFault := by
  rintro ⟨_, rest, eq⟩
  rw [← eq] at head
  exact head rfl

theorem tells_fault (text : String) : (errorText ("Error: " ++ text)).TellsFault := by
  refine ⟨rfl, ?_⟩
  show "Error: ".toList <+: ("Error: " ++ text).toList
  rw [String.toList_append]
  exact List.prefix_append _ _

theorem event_line_quiet (event : ScanEvent) : ¬ (eventLine event).TellsFault := by
  rintro ⟨_, rest, eq⟩
  unfold eventLine errorText at eq
  simp only [String.toList_append] at eq
  split at eq <;> simp at eq

theorem styled_head {c : Char} (other : c ≠ Text.escape) {color : Bool} {style : Text.Style}
    {text : String} (head : text.toList.head? ≠ some c) :
    (Text.styled color style text).toList.head? ≠ some c := by
  unfold Text.styled
  split
  · simp [String.toList_append, Text.styleSequence, other.symm]
  · exact head

theorem summary_line_head {c : Char} (symbol : c.isDigit = false) (other : c ≠ Text.escape)
    (first : c ≠ 'N') (color : Bool) (reports : List FileReport) (least : Severity) :
    (summaryLine color reports least).toList.head? ≠ some c := by
  simp only [summaryLine]
  split
  · refine styled_head other ?_
    rintro ⟨⟩
    exact first rfl
  · simp only [String.append_assoc]
    exact Text.number_head _ _ symbol

end Texts

theorem fault_texts_append (first second : List Printed) :
    faultTexts (first ++ second) = faultTexts first ++ faultTexts second := by
  simp only [faultTexts, List.filter_append, List.map_append]

theorem fault_texts_quiet {printed : List Printed} (quiet : ∀ p ∈ printed, ¬ p.TellsFault) :
    faultTexts printed = [] := by
  rw [faultTexts, List.map_eq_nil_iff, List.filter_eq_nil_iff]
  intro p member tells
  exact quiet p member (of_decide_eq_true tells)

theorem fault_texts_single (text : String) :
    faultTexts [errorText ("Error: " ++ text)] = ["Error: " ++ text] := by
  have kept : [errorText ("Error: " ++ text)].filter (fun p => p.TellsFault) =
      [errorText ("Error: " ++ text)] := by
    simp [tells_fault text]
  rw [faultTexts, kept]
  rfl

theorem report_output_quiet (options : LintOptions) (color : Bool) (reports : List FileReport) :
    faultTexts (reportOutput options color reports) = [] := by
  refine fault_texts_quiet ?_
  intro p member tells
  unfold reportOutput at member
  split at member
  · obtain rfl := List.mem_singleton.mp member
    cases tells.1
  · rcases List.mem_append.mp member with line | last
    · obtain ⟨text, _, rfl⟩ := List.mem_map.mp line
      cases tells.1
    · obtain rfl := List.mem_singleton.mp last
      have quiet : ¬ (errorText (summaryLine color reports options.minSeverity)).TellsFault :=
        not_tells_of_head (summary_line_head rfl (by decide) (by decide) color reports _)
      exact quiet tells

section Files

variable {files : Files} {rules : List Rule}

theorem scan_file_error {path : String} {fault : InputFault} :
    scanFile files rules path = .error fault ↔ readSource files path = .error fault := by
  unfold scanFile
  cases readSource files path <;> simp [Except.map]

theorem file_lines_stream (verbose : Bool) (path : String) :
    ∀ p ∈ fileLines verbose files rules path, p.stream = .errors := by
  intro p member
  unfold fileLines at member
  split at member
  · obtain rfl := List.mem_singleton.mp member
    rfl
  · split at member
    · obtain ⟨event, _, rfl⟩ := List.mem_map.mp member
      rfl
    · cases member

theorem failed_file_texts (verbose : Bool) {path : String} {fault : InputFault}
    (failed : scanFile files rules path = .error fault) :
    faultTexts (fileLines verbose files rules path) = ["Error: " ++ fault.message] := by
  have unread := scan_file_error.mp failed
  unfold fileLines
  rw [unread]
  exact fault_texts_single fault.message

theorem scanned_file_texts (verbose : Bool) {path : String} {result : ScanResult}
    (scanned : scanFile files rules path = .ok result) :
    faultTexts (fileLines verbose files rules path) = [] := by
  refine fault_texts_quiet ?_
  intro p member
  unfold fileLines at member
  split at member
  · rename_i fault unread
    rw [scan_file_error.mpr unread] at scanned
    cases scanned
  · split at member
    · obtain ⟨event, _, rfl⟩ := List.mem_map.mp member
      exact event_line_quiet event
    · cases member

theorem file_reports_scanned {path : String} {result : ScanResult} (paths : List String)
    (scanned : scanFile files rules path = .ok result) :
    fileReports files rules (path :: paths) = ⟨path, result⟩ :: fileReports files rules paths := by
  have report : scanReport files rules path = .ok ⟨path, result⟩ := by
    rw [scanReport, scanned]
    rfl
  simp [fileReports, report, Except.toOption]

theorem file_reports_failed {path : String} {fault : InputFault} (paths : List String)
    (failed : scanFile files rules path = .error fault) :
    fileReports files rules (path :: paths) = fileReports files rules paths := by
  have report : scanReport files rules path = .error fault := by
    rw [scanReport, failed]
    rfl
  simp [fileReports, report, Except.toOption]

theorem file_reports_scans (files : Files) (rules : List Rule) (paths : List String) :
    ∃ faults, Scans files rules paths (fileReports files rules paths) faults := by
  induction paths with
  | nil => exact ⟨[], .done⟩
  | cons path paths ih =>
    obtain ⟨faults, scans⟩ := ih
    cases outcome : scanFile files rules path with
    | ok result =>
      rw [file_reports_scanned paths outcome]
      exact ⟨faults, .reported outcome scans⟩
    | error fault =>
      rw [file_reports_failed paths outcome]
      exact ⟨fault :: faults, .passedOver outcome scans⟩

section Scans

variable {paths : List String} {reports : List FileReport} {faults : List InputFault}

theorem scans_texts (scans : Scans files rules paths reports faults) (verbose : Bool) :
    faultTexts (paths.flatMap (fileLines verbose files rules)) =
      faults.map fun fault => "Error: " ++ fault.message := by
  induction scans with
  | done => rfl
  | reported scanned later ih =>
    rw [List.flatMap_cons, fault_texts_append, scanned_file_texts verbose scanned, ih]
    rfl
  | passedOver failed later ih =>
    rw [List.flatMap_cons, fault_texts_append, failed_file_texts verbose failed, ih]
    rfl

theorem unscanned_iff (path : String) :
    isUnscanned files rules path = true ↔ ∃ fault, scanFile files rules path = .error fault := by
  unfold isUnscanned scanReport
  cases scanFile files rules path <;> simp [Except.map, Except.toOption]

theorem scans_fault (scans : Scans files rules paths reports faults) :
    ∀ fault ∈ faults, ∃ path ∈ paths, scanFile files rules path = .error fault := by
  induction scans with
  | done =>
    intro fault member
    cases member
  | reported scanned later ih =>
    intro fault member
    obtain ⟨path, among, failed⟩ := ih fault member
    exact ⟨path, List.mem_cons_of_mem _ among, failed⟩
  | passedOver failed later ih =>
    intro fault member
    rcases List.mem_cons.mp member with rfl | member
    · exact ⟨_, List.mem_cons_self, failed⟩
    · obtain ⟨path, among, failed⟩ := ih fault member
      exact ⟨path, List.mem_cons_of_mem _ among, failed⟩

theorem scans_unscanned (scans : Scans files rules paths reports faults) :
    paths.any (isUnscanned files rules) = !faults.isEmpty := by
  induction scans with
  | done => rfl
  | @reported path result paths reports faults scanned later ih =>
    have here : isUnscanned files rules path = false := by
      rw [Bool.eq_false_iff, ne_eq, unscanned_iff, scanned]
      simp
    rw [List.any_cons, here, ih]
    rfl
  | @passedOver path fault paths reports faults failed later ih =>
    have here : isUnscanned files rules path = true := (unscanned_iff path).mpr ⟨fault, failed⟩
    rw [List.any_cons, here]
    rfl

end Scans

end Files

section Exit

theorem has_errors_iff (reports : List FileReport) :
    (reports.any fun report => report.result.hasErrors) = true ↔
      ∃ report ∈ reports, ∃ v ∈ report.result.violations, v.severity = .error := by
  simp only [List.any_eq_true, ScanResult.hasErrors, decide_eq_true_eq]

theorem count_errors_pos_iff (reports : List FileReport) (least : Severity) :
    0 < countOf .error (shownViolations reports least) ↔
      ∃ report ∈ reports, ∃ v ∈ report.result.violations, v.severity = .error := by
  rw [countOf, List.countP_pos_iff]
  constructor
  · rintro ⟨entry, among, error⟩
    obtain ⟨report, ofReport, among⟩ := List.mem_flatMap.mp among
    obtain ⟨v, shown, rfl⟩ := List.mem_map.mp among
    exact ⟨report, ofReport, v, (List.mem_filter.mp shown).1, of_decide_eq_true error⟩
  · rintro ⟨report, ofReport, v, member, error⟩
    have enough : v.severity.atLeast least = true := by
      rw [error]
      cases least <;> rfl
    have shown : v ∈ report.result.filtered least := List.mem_filter.mpr ⟨member, enough⟩
    exact ⟨(report.path, v), List.mem_flatMap.mpr ⟨report, ofReport, List.mem_map_of_mem shown⟩,
      decide_eq_true error⟩

theorem summary_error_count (reports : List FileReport) (least : Severity) :
    ((reportJson reports least).field? "summary").bind (Json.field? "error") =
      some (.ofNat (countOf .error (shownViolations reports least))) := by
  simp [reportJson, summaryJson, Json.field?]

theorem lint_exit_cases (unscanned : Bool) (reports : List FileReport) :
    (lintExit unscanned reports = 2 ↔ unscanned = true) ∧
    (lintExit unscanned reports = 1 ↔ unscanned = false ∧
      ∃ report ∈ reports, ∃ v ∈ report.result.violations, v.severity = .error) ∧
    (lintExit unscanned reports = 0 ↔ unscanned = false ∧
      ∀ report ∈ reports, ∀ v ∈ report.result.violations, v.severity ≠ .error) := by
  have none : (∀ report ∈ reports, ∀ v ∈ report.result.violations, v.severity ≠ .error) ↔
      ¬ ∃ report ∈ reports, ∃ v ∈ report.result.violations, v.severity = .error := by
    simp only [not_exists, not_and, ne_eq]
  rw [none, ← has_errors_iff]
  unfold lintExit badInput
  cases unscanned with
  | true => simp
  | false => cases reports.any fun report => report.result.hasErrors <;> simp

theorem lint_exit_perm {files : Files} {rules : List Rule} {paths paths' : List String}
    (perm : paths.Perm paths') :
    lintExit (paths.any (isUnscanned files rules)) (fileReports files rules paths) =
      lintExit (paths'.any (isUnscanned files rules)) (fileReports files rules paths') := by
  have reports : (fileReports files rules paths).Perm (fileReports files rules paths') :=
    perm.filterMap _
  rw [lintExit, lintExit, perm.any_eq, reports.any_eq]

end Exit

/-- What a run over files comes to, given the reports on some of them and the faults of the others: what
    it prints, its exit code, and how that goes with the count of errors in the summary of the record. A
    message is a single line of text unless a path is not. -/
structure Outcome (run : Run) (options : LintOptions) (color : Bool) (reports : List FileReport)
    (faults : List InputFault) : Prop where
  shown : ∃ told, run.printed = told ++ reportOutput options color reports ∧
    ∀ p ∈ told, p.stream = .errors
  messages : faultTexts run.printed = faults.map fun fault => "Error: " ++ fault.message
  noNull : ∀ fault ∈ faults, fault ≠ .nullByte
  lines : (∀ path ∈ options.files, OneLine path) → ∀ fault ∈ faults, OneLine fault.message
  failed : run.ending = .exit 2 ↔ faults ≠ []
  found : run.ending = .exit 1 ↔ faults = [] ∧
    ∃ report ∈ reports, ∃ v ∈ report.result.violations, v.severity = .error
  clean : run.ending = .exit 0 ↔ faults = [] ∧
    ∀ report ∈ reports, ∀ v ∈ report.result.violations, v.severity ≠ .error
  counted : ∃ count,
    ((reportJson reports options.minSeverity).field? "summary").bind (Json.field? "error") =
      some (.ofNat count) ∧
    (faults = [] → (run.ending = .exit 1 ↔ 0 < count))

theorem check_files_ok {files : Files} {paths : List String}
    (accepted : checkFiles files paths = .ok ()) :
    paths ≠ [] ∧ ∀ path ∈ paths, Path.holdsNull path = false := by
  unfold checkFiles at accepted
  split at accepted
  · cases accepted
  · rename_i nonempty
    split at accepted
    · cases accepted
    · rename_i sound
      refine ⟨by simpa using nonempty, ?_⟩
      intro path member
      have fine := List.findSome?_eq_none_iff.mp sound path member
      unfold pathFault? at fine
      split at fine
      · cases fine
      · rename_i noNull
        exact Bool.eq_false_iff.mpr noNull

theorem read_checks_files {environment : Environment} {line : List String} {options : LintOptions}
    (accepted : LintOptions.read environment line = .ok (.perform options)) :
    checkFiles environment.files options.files = .ok () := by
  unfold LintOptions.read at accepted
  obtain ⟨words, _, accepted⟩ := bind_eq_ok.mp accepted
  split at accepted
  · cases accepted
  · obtain ⟨_, _, accepted⟩ := bind_eq_ok.mp accepted
    obtain ⟨_, checked, accepted⟩ := bind_eq_ok.mp accepted
    obtain ⟨noColor, _, accepted⟩ := bind_eq_ok.mp accepted
    cases accepted
    exact checked

theorem lint_files_outcome (verbose : Bool) (rules : List Rule) {environment : Environment}
    {options : LintOptions} (accepted : checkFiles environment.files options.files = .ok ()) :
    ∃ reports faults, Scans environment.files rules options.files reports faults ∧
      Outcome (lintFiles verbose environment options rules) options
        (usesColor options.noColor environment.noColor) reports faults := by
  obtain ⟨faults, scans⟩ := file_reports_scans environment.files rules options.files
  have sound := (check_files_ok accepted).2
  have ending : (lintFiles verbose environment options rules).ending = .exit (lintExit (!faults.isEmpty)
      (fileReports environment.files rules options.files)) := by
    rw [← scans_unscanned scans]
    rfl
  obtain ⟨failed, found, clean⟩ := lint_exit_cases (!faults.isEmpty)
    (fileReports environment.files rules options.files)
  refine ⟨_, faults, scans, ?_⟩
  constructor
  · refine ⟨_, rfl, ?_⟩
    intro p member
    obtain ⟨path, _, member⟩ := List.mem_flatMap.mp member
    exact file_lines_stream verbose path p member
  · show faultTexts (_ ++ _) = _
    rw [fault_texts_append, scans_texts scans, report_output_quiet, List.append_nil]
  · intro fault member
    obtain ⟨path, among, failed⟩ := scans_fault scans fault member
    rcases scan_file_fault failed (sound path among) with ⟨_, _, rfl⟩ | ⟨_, _, _, _, rfl⟩
    all_goals simp
  · intro line fault member
    obtain ⟨path, among, failed⟩ := scans_fault scans fault member
    exact fault_message_one_line failed (sound path among) (line path among)
  · rw [ending, Ending.exit.injEq, failed]
    simp
  · rw [ending, Ending.exit.injEq, found]
    simp
  · rw [ending, Ending.exit.injEq, clean]
    simp
  · refine ⟨_, summary_error_count _ _, ?_⟩
    intro none
    rw [ending, Ending.exit.injEq, found, count_errors_pos_iff, none]
    simp

/-- The line asks for files to be checked with these options, and is accepted with the configuration
    that they come to. -/
def Asks (program : String) (environment : Environment) (line : List String)
    (options : LintOptions) (config : Config) : Prop :=
  ∃ words rest loaded, readWords programForms false line = .ok words ∧
    notice? program words = none ∧ words.others = Command.lint.name :: rest ∧
    LintOptions.read environment rest = .ok (.perform options) ∧
    environment.config options.config = .ok loaded ∧
    options.settle loaded = .ok config

section Run

variable {program : String} {environment : Environment} {line : List String}
variable {options : LintOptions} {config : Config}

theorem asks_checks_files (asks : Asks program environment line options config) :
    checkFiles environment.files options.files = .ok () := by
  obtain ⟨_, _, _, _, _, _, accepted, _⟩ := asks
  exact read_checks_files accepted

theorem asks_run (asks : Asks program environment line options config) :
    ∃ verbose, run program environment line =
      lintFiles verbose environment options (Registry.builtin.select config).rules := by
  obtain ⟨words, rest, loaded, read, noNotice, others, accepted, load, settled⟩ := asks
  obtain ⟨front, rfl, _⟩ := first_other_ends read others
  obtain ⟨verbose, runs⟩ := called_runs ⟨words, read, noNotice, others⟩
  exact ⟨verbose, (runs environment rest).trans (settled_runs accepted load settled)⟩

/-- Lines that differ in the order of the files, in the format, in the severities shown and in colour
    come to the same configuration. -/
theorem asks_same_config {line' files' : List String} {format : Format} {least : Severity}
    {noColor : Bool} {config' : Config} (asks : Asks program environment line options config)
    (asks' : Asks program environment line'
      { options with files := files', format := format, minSeverity := least, noColor := noColor }
      config') : config' = config := by
  obtain ⟨_, _, loaded, _, _, _, _, load, settled⟩ := asks
  obtain ⟨_, _, loaded', _, _, _, _, load', settled'⟩ := asks'
  obtain rfl := Except.ok.inj (load.symm.trans load')
  exact Except.ok.inj (settled'.symm.trans settled)

/-- A run over files reports each file that can be scanned with the result it has alone and passes over
    each other one with one message, all in the order of the files. Its exit code is 2 if a file was
    passed over, and else tells whether an error was found; so it stays the same for any order of the
    files, either format and whatever is shown. -/
theorem lint_run_outcome (asks : Asks program environment line options config) :
    ∃ reports faults,
      Scans environment.files (Registry.builtin.select config).rules options.files reports faults ∧
      Outcome (run program environment line) options
        (usesColor options.noColor environment.noColor) reports faults ∧
      ∀ line' files' format least noColor config',
        Asks program environment line'
          { options with files := files', format := format, minSeverity := least,
                         noColor := noColor } config' →
        files'.Perm options.files →
        (run program environment line').ending = (run program environment line).ending := by
  obtain ⟨verbose, runs⟩ := asks_run asks
  obtain ⟨reports, faults, scans, outcome⟩ :=
    lint_files_outcome verbose (Registry.builtin.select config).rules (asks_checks_files asks)
  rw [runs]
  refine ⟨reports, faults, scans, outcome, ?_⟩
  intro line' files' format least noColor config' asks' perm
  obtain rfl := asks_same_config asks asks'
  obtain ⟨verbose', runs'⟩ := asks_run asks'
  rw [runs']
  exact congrArg Ending.exit (lint_exit_perm perm)

end Run

def mixedFiles : Environment :=
  let tree : FileTree := ⟨"<root>",
    [(["a.swift"], .file (Text.encode "let a = 1;\n".toList)), (["b.swift"], .file [0xFF])], []⟩
  ⟨tree.find, .ok (Path.upward tree.currentPath), none, .unlimited⟩

def mixedLine : List String := ["lint", "a.swift", "b.swift", "c.swift", "a.swift"]

def mixedOptions : LintOptions :=
  ⟨["a.swift", "b.swift", "c.swift", "a.swift"], .text, [], .warning, false, none, none⟩

def mixedTexts : List String :=
  ["Error: b.swift: cannot decode as UTF-8: " ++
     "'utf-8' codec can't decode byte 0xff in position 0: invalid start byte",
   "Error: c.swift: No such file or directory"]

def mixedRecordLine : List String :=
  ["-v", "lint", "c.swift", "--format=json", "a.swift", "--min-severity", "error", "a.swift",
   "b.swift", "--no-color"]

theorem mixed_files_outcome :
    Asks "stylint" mixedFiles mixedLine mixedOptions .permissive ∧
    Asks "stylint" mixedFiles mixedRecordLine
      { mixedOptions with files := ["c.swift", "a.swift", "a.swift", "b.swift"], format := .json,
                          minSeverity := .error, noColor := true } .permissive ∧
    (∃ reports faults,
      Scans mixedFiles.files (Registry.builtin.select .permissive).rules mixedOptions.files reports
        faults ∧
      Outcome (run "stylint" mixedFiles mixedLine) mixedOptions true reports faults) ∧
    faultTexts (run "stylint" mixedFiles mixedLine).printed = mixedTexts ∧
    (run "stylint" mixedFiles mixedLine).ending = .exit 2 ∧
    (run "stylint" mixedFiles mixedRecordLine).ending = .exit 2 := by
  have asks : Asks "stylint" mixedFiles mixedLine mixedOptions .permissive :=
    ⟨_, _, _, rfl, rfl, rfl, rfl, rfl, rfl⟩
  have asksRecord : Asks "stylint" mixedFiles mixedRecordLine
      { mixedOptions with files := ["c.swift", "a.swift", "a.swift", "b.swift"], format := .json,
                          minSeverity := .error, noColor := true } .permissive :=
    ⟨_, _, _, rfl, rfl, rfl, rfl, rfl, rfl⟩
  obtain ⟨reports, faults, scans, outcome, same⟩ := lint_run_outcome asks
  have texts : faultTexts (run "stylint" mixedFiles mixedLine).printed = mixedTexts := by
    decide +kernel
  have ending : (run "stylint" mixedFiles mixedLine).ending = .exit 2 := by
    rw [outcome.failed]
    rintro rfl
    rw [outcome.messages] at texts
    cases texts
  have reordered : ["c.swift", "a.swift", "a.swift", "b.swift"].Perm mixedOptions.files := by
    decide
  exact ⟨asks, asksRecord, ⟨reports, faults, scans, outcome⟩, texts, ending,
    (same _ _ _ _ _ _ asksRecord reordered).trans ending⟩

end LineLint.CommandLine
