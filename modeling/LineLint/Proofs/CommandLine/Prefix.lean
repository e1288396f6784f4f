import LineLint.Proofs.CommandLine.Outcome
import Mathlib.Data.List.Forall2

/- The lines of a run in text, and when each begins with the path of its file. What decides is how many
   files could be scanned, not how many were asked for. -/
namespace LineLint

namespace Text

theorem parameters_end_at_colon (cs rest : List Char) :
    ((cs ++ ':' :: rest).dropWhile isSequenceParameter).head?.any Char.isAlpha =
      (cs.dropWhile isSequenceParameter).head?.any Char.isAlpha := by
  induction cs with
  | nil => rfl
  | cons c cs ih =>
    by_cases parameter : isSequenceParameter c = true
    · rw [List.cons_append, List.dropWhile_cons_of_pos parameter, List.dropWhile_cons_of_pos parameter, ih]
    · rw [List.cons_append, List.dropWhile_cons_of_neg parameter, List.dropWhile_cons_of_neg parameter]
      rfl

theorem starts_sequence_colon (c : Char) (cs rest : List Char) :
    startsSequence (c :: (cs ++ ':' :: rest)) = startsSequence (c :: cs) := by
  cases cs with
  | nil => rfl
  | cons d cs =>
    by_cases bracket : d = '['
    · subst bracket
      simp only [startsSequence, List.cons_append, parameters_end_at_colon]
    · simp [startsSequence, bracket]

theorem starts_sequence_letter {c : Char} {cs : List Char} (starts : startsSequence (c :: cs) = true) :
    c = escape ∧ ∃ d ∈ cs, d.isAlpha = true := by
  unfold startsSequence at starts
  split at starts
  · rename_i first parameters eq
    obtain ⟨rfl, rfl⟩ := List.cons.inj eq
    obtain ⟨escaped, ended⟩ := Bool.and_eq_true_iff.mp starts
    obtain ⟨d, head, letter⟩ := (Option.any_eq_true _ _).mp ended
    have member := (List.dropWhile_suffix isSequenceParameter).subset (List.mem_of_head? head)
    exact ⟨eq_of_beq escaped, d, List.mem_cons_of_mem _ member, letter⟩
  · cases starts

theorem without_sequences_colon (cs rest : List Char) (inside : Bool)
    (letter : inside = true → ∃ d ∈ cs, d.isAlpha = true) :
    withoutSequences inside (cs ++ ':' :: rest) =
      withoutSequences inside cs ++ ':' :: withoutSequences false rest := by
  induction cs generalizing inside with
  | nil =>
    cases inside with
    | false =>
      have plain : ¬ startsSequence (':' :: rest) = true := by
        intro starts
        cases (starts_sequence_letter starts).1
      simp [withoutSequences, plain]
    | true =>
      obtain ⟨d, member, -⟩ := letter rfl
      cases member
  | cons c cs ih =>
    rw [List.cons_append, withoutSequences, withoutSequences]
    cases inside with
    | true =>
      rw [if_pos rfl, if_pos rfl]
      refine ih _ ?_
      intro inner
      obtain ⟨d, member, alpha⟩ := letter rfl
      rcases List.mem_cons.mp member with rfl | later
      · rw [alpha] at inner
        cases inner
      · exact ⟨d, later, alpha⟩
    | false =>
      rw [if_neg Bool.false_ne_true, if_neg Bool.false_ne_true, starts_sequence_colon]
      split
      · rename_i starts
        exact ih true fun _ => (starts_sequence_letter starts).2
      · rw [ih false (by simp)]
        rfl

theorem strip_sequences_colon (front rest : String) :
    stripSequences (front ++ ":" ++ rest) = stripSequences front ++ ":" ++ stripSequences rest := by
  have chars := without_sequences_colon front.toList rest.toList false (by simp)
  simp [stripSequences, ← String.toList_inj, chars]

end Text

namespace CommandLine

def textsOn (stream : Stream) (printed : List Printed) : List String :=
  (printed.filter fun p => p.stream = stream).map Printed.text

def Leads (path line : String) : Prop := (path ++ ":").toList <+: line.toList

instance (path line : String) : Decidable (Leads path line) :=
  inferInstanceAs (Decidable (_ <+: _))

section Lines

theorem leads_append (path rest : String) : Leads path (path ++ ":" ++ rest) := by
  unfold Leads
  rw [String.toList_append (s := path ++ ":")]
  exact List.prefix_append _ _

theorem line_after (color : Bool) (before : String) (v : Violation) :
    violationLine color before v = before ++ violationLine color "" v := by
  simp only [violationLine, String.empty_append, String.append_assoc]

theorem line_led (color : Bool) (path : String) (v : Violation) :
    Leads path (violationLine color (path ++ ":") v) := by
  rw [line_after]
  exact leads_append path _

theorem plain_line_led (color : Bool) (path : String) (v : Violation) :
    Leads (Text.stripSequences path) (Text.stripSequences (violationLine color (path ++ ":") v)) := by
  rw [line_after, Text.strip_sequences_colon]
  exact leads_append _ _

theorem line_not_led (color : Bool) {path : String}
    (noNumber : ∀ c ∈ path.toList.head?, c.isDigit = false) (v : Violation) :
    ¬ Leads path (violationLine color "" v) := by
  have place : ∃ rest, violationLine color "" v = toString v.line ++ rest := by
    unfold violationLine Violation.location
    cases v.column with
    | none => exact ⟨_, by simp only [String.empty_append, String.append_assoc]; rfl⟩
    | some column => exact ⟨_, by simp only [String.empty_append, String.append_assoc]; rfl⟩
  have head : ∃ c, (path ++ ":").toList.head? = some c ∧ c.isDigit = false := by
    rw [String.toList_append]
    cases chars : path.toList with
    | nil => exact ⟨':', rfl, rfl⟩
    | cons c cs => exact ⟨c, rfl, noNumber c (by rw [chars]; rfl)⟩
  rintro ⟨more, same⟩
  obtain ⟨rest, place⟩ := place
  obtain ⟨c, head, symbol⟩ := head
  refine Text.number_head v.line rest symbol ?_
  rw [← place, ← same, List.head?_append, head]
  rfl

theorem report_lines_several (color : Bool) {reports : List FileReport} (least : Severity)
    (several : 1 < reports.length) :
    reportLines color reports least =
      (shownViolations reports least).map fun entry => violationLine color (entry.1 ++ ":") entry.2 := by
  simp only [reportLines, several, if_true]

theorem report_lines_one (color : Bool) {reports : List FileReport} (least : Severity)
    (one : reports.length ≤ 1) :
    reportLines color reports least =
      (shownViolations reports least).map fun entry => violationLine color "" entry.2 := by
  simp only [reportLines, Nat.not_lt.mpr one, if_false]

end Lines

section Texts

theorem texts_on_append (stream : Stream) (first second : List Printed) :
    textsOn stream (first ++ second) = textsOn stream first ++ textsOn stream second := by
  simp only [textsOn, List.filter_append, List.map_append]

theorem texts_on_errors {printed : List Printed} (errors : ∀ p ∈ printed, p.stream = .errors) :
    textsOn .output printed = [] := by
  rw [textsOn, List.map_eq_nil_iff, List.filter_eq_nil_iff]
  intro p member
  rw [errors p member]
  decide

theorem texts_on_output (lines : List String) : textsOn .output (lines.map output) = lines := by
  induction lines with
  | nil => rfl
  | cons line lines ih => exact congrArg (line :: ·) ih

theorem texts_on_plain (stream : Stream) (run : Run) :
    textsOn stream run.plain.printed = (textsOn stream run.printed).map Text.stripSequences := by
  simp only [textsOn, Run.plain, List.filter_map, List.map_map, Function.comp_def]

theorem lint_files_lines (verbose : Bool) (environment : Environment) (rules : List Rule)
    {options : LintOptions} (text : options.format = .text) :
    textsOn .output (lintFiles verbose environment options rules).printed =
      reportLines (usesColor options.noColor environment.noColor)
        (fileReports environment.files rules options.files) options.minSeverity := by
  have quiet : ∀ p ∈ options.files.flatMap (fileLines verbose environment.files rules),
      p.stream = .errors := by
    intro p member
    obtain ⟨path, _, member⟩ := List.mem_flatMap.mp member
    exact file_lines_stream verbose path p member
  have summary (line : String) : textsOn .output [errorText line] = [] := rfl
  simp only [lintFiles, reportOutput, text]
  rw [texts_on_append, texts_on_errors quiet, texts_on_append, texts_on_output, summary, List.nil_append,
    List.append_nil]

end Texts

theorem scans_length {files : Files} {rules : List Rule} {paths : List String} {reports : List FileReport}
    {faults : List InputFault} (scans : Scans files rules paths reports faults) :
    reports.length + faults.length = paths.length := by
  induction scans with
  | done => rfl
  | reported scanned later ih =>
    simp only [List.length_cons]
    omega
  | passedOver failed later ih =>
    simp only [List.length_cons]
    omega

theorem scans_paths {files : Files} {rules : List Rule} {paths : List String} {reports : List FileReport}
    {faults : List InputFault} (scans : Scans files rules paths reports faults) :
    ∀ report ∈ reports, report.path ∈ paths := by
  induction scans with
  | done =>
    intro report member
    cases member
  | reported scanned later ih =>
    intro report member
    rcases List.mem_cons.mp member with rfl | member
    · exact List.mem_cons_self
    · exact List.mem_cons_of_mem _ (ih report member)
  | passedOver failed later ih =>
    intro report member
    exact List.mem_cons_of_mem _ (ih report member)

/-- The lines of a run in text: one for each violation shown, file by file. With more than one file scanned
    every line begins with the path of its file, also without terminal sequences; with one, no line does
    unless a path begins with a digit, as the place in a line does. -/
structure Lines (run : Run) (options : LintOptions) (color : Bool) (reports : List FileReport)
    (faults : List InputFault) : Prop where
  counted : reports.length + faults.length = options.files.length
  lines : textsOn .output run.printed = (shownViolations reports options.minSeverity).map fun entry =>
    violationLine color (if 1 < reports.length then entry.1 ++ ":" else "") entry.2
  led : 1 < reports.length → List.Forall₂ (fun entry line => Leads entry.1 line)
    (shownViolations reports options.minSeverity) (textsOn .output run.printed)
  plainLed : 1 < reports.length →
    List.Forall₂ (fun entry line => Leads (Text.stripSequences entry.1) line)
      (shownViolations reports options.minSeverity) (textsOn .output run.plain.printed)
  bare : reports.length ≤ 1 → (∀ path ∈ options.files, ∀ c ∈ path.toList.head?, c.isDigit = false) →
    List.Forall₂ (fun entry line => ¬ Leads entry.1 line)
      (shownViolations reports options.minSeverity) (textsOn .output run.printed)

section Run

variable {program : String} {environment : Environment} {line : List String}
variable {options : LintOptions} {config : Config}

/-- A run in text prints one line for each violation shown. Each begins with the path of its file if more
    than one file could be scanned. If only one could, the place comes first, however many were asked for. -/
theorem lint_run_lines (asks : Asks program environment line options config)
    (text : options.format = .text) :
    ∃ reports faults,
      Scans environment.files (Registry.builtin.select config).rules options.files reports faults ∧
      Lines (run program environment line) options (usesColor options.noColor environment.noColor)
        reports faults := by
  obtain ⟨verbose, runs⟩ := asks_run asks
  obtain ⟨faults, scans⟩ :=
    file_reports_scans environment.files (Registry.builtin.select config).rules options.files
  have lines := lint_files_lines verbose environment (Registry.builtin.select config).rules text
  rw [runs]
  refine ⟨_, faults, scans, ?_⟩
  constructor
  · exact scans_length scans
  · exact lines
  · intro several
    rw [lines, report_lines_several _ _ several, List.forall₂_map_right_iff, List.forall₂_same]
    intro entry _
    exact line_led _ entry.1 entry.2
  · intro several
    rw [texts_on_plain, lines, report_lines_several _ _ several, List.forall₂_map_right_iff,
      List.forall₂_map_right_iff, List.forall₂_same]
    intro entry _
    exact plain_line_led _ entry.1 entry.2
  · intro one noNumber
    rw [lines, report_lines_one _ _ one, List.forall₂_map_right_iff, List.forall₂_same]
    intro entry shown
    obtain ⟨report, ofReport, shown⟩ := List.mem_flatMap.mp shown
    obtain ⟨v, -, rfl⟩ := List.mem_map.mp shown
    exact line_not_led _ (noNumber report.path (scans_paths scans report ofReport)) v

end Run

theorem mixed_files_lines :
    Asks "stylint" mixedFiles mixedLine mixedOptions .permissive ∧ mixedOptions.format = .text ∧
    (∃ reports faults,
      Scans mixedFiles.files (Registry.builtin.select .permissive).rules mixedOptions.files reports
        faults ∧
      Lines (run "stylint" mixedFiles mixedLine) mixedOptions true reports faults) ∧
    textsOn .output (run "stylint" mixedFiles mixedLine).plain.printed =
      List.replicate 2 "a.swift:1:10: error: Line contains a semicolon [no-semicolons]" := by
  have asks : Asks "stylint" mixedFiles mixedLine mixedOptions .permissive :=
    ⟨_, _, _, rfl, rfl, rfl, rfl, rfl, rfl⟩
  exact ⟨asks, rfl, lint_run_lines asks rfl, by decide +kernel⟩

def halfReadLine : List String := ["lint", "a.swift", "b.swift"]

def halfReadOptions : LintOptions := { mixedOptions with files := ["a.swift", "b.swift"] }

def halfReadText : String := "1:10: error: Line contains a semicolon [no-semicolons]"

/-- One file is left to report, so its line has no path in front, although two were asked for. -/
theorem half_read_line_not_led :
    Asks "stylint" mixedFiles halfReadLine halfReadOptions .permissive ∧
    halfReadOptions.format = .text ∧ 2 ≤ halfReadOptions.files.length ∧
    textsOn .output (run "stylint" mixedFiles halfReadLine).plain.printed = [halfReadText] ∧
    ∀ path ∈ halfReadOptions.files, ¬ Leads path halfReadText := by
  refine ⟨⟨_, _, _, rfl, rfl, rfl, rfl, rfl, rfl⟩, rfl, by decide, ?_, by decide⟩
  decide +kernel

end CommandLine

end LineLint
