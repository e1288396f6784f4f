import LineLint.Proofs.Json.Printing
import LineLint.Report.Record

/- The record of a report, read back from its text: every file with the violations that are shown, and how
   many they are. A missing column is kept apart from any number. -/
namespace LineLint

section Values

namespace Json

def text? : Json → Option String
  | .text s => some s
  | _ => none

def count? : Json → Option Nat
  | .integer n => n.toNat?
  | _ => none

def optional? {α : Type} (reader : Json → Option α) : Json → Option (Option α)
  | .null => some none
  | value => (reader value).map some

def items? {α : Type} (reader : Json → Option α) : Json → Option (List α)
  | .array items => items.mapM reader
  | _ => none

def under? {α : Type} (name : String) (reader : Json → Option α) (value : Json) : Option α :=
  (value.field? name).bind reader

theorem count_of_nat (n : Nat) : count? (.ofNat n) = some n := rfl

theorem optional_count_of_option (n : Option Nat) : optional? count? (.ofOption .ofNat n) = some n := by
  cases n with
  | none => rfl
  | some n => rfl

theorem items_of_map {α β : Type} {reader : Json → Option β} {toJson : α → Json} {f : α → β}
    (reads : ∀ a, reader (toJson a) = some (f a)) (as : List α) :
    items? reader (.array (as.map toJson)) = some (as.map f) := by
  have each : reader ∘ toJson = fun a => pure (f a) := funext reads
  rw [items?, List.mapM_map, each, List.mapM_pure]
  rfl

end Json

end Values

section Reports

structure Tally where
  total : Nat
  error : Nat
  warning : Nat
  deriving DecidableEq, Repr

/-- What the record of a report tells. -/
structure Record where
  version : String
  files : List FileReport
  tally : Tally
  deriving DecidableEq, Repr

def Violation.ofJson? (value : Json) : Option Violation := do
  let ruleId ← value.under? "rule_id" Json.text?
  let severity ← value.under? "severity" fun name => name.text?.bind Severity.ofName?
  let line ← value.under? "line" Json.count?
  let column ← value.under? "column" (Json.optional? Json.count?)
  let message ← value.under? "message" Json.text?
  let hint ← value.under? "hint" Json.text?
  pure ⟨ruleId, severity, line, message, column, hint⟩

def FileReport.ofJson? (value : Json) : Option FileReport := do
  let path ← value.under? "path" Json.text?
  let lineCount ← value.under? "lines" Json.count?
  let violations ← value.under? "violations" (Json.items? Violation.ofJson?)
  pure ⟨path, violations, lineCount⟩

def Tally.ofJson? (value : Json) : Option Tally := do
  let total ← value.under? "total" Json.count?
  let error ← value.under? "error" Json.count?
  let warning ← value.under? "warning" Json.count?
  pure ⟨total, error, warning⟩

def Record.ofJson? (value : Json) : Option Record := do
  let version ← value.under? "version" Json.text?
  let files ← value.under? "files" (Json.items? FileReport.ofJson?)
  let tally ← value.under? "summary" Tally.ofJson?
  pure ⟨version, files, tally⟩

/-- A report without the violations below a severity. -/
def FileReport.above (least : Severity) (report : FileReport) : FileReport :=
  let violations := report.result.violations.filter fun v => least = .warning ∨ v.severity = .error
  ⟨report.path, violations, report.result.lineCount⟩

def violationsOf (reports : List FileReport) : List Violation :=
  reports.flatMap fun report => report.result.violations

def Tally.of (violations : List Violation) : Tally :=
  ⟨violations.length, violations.countP fun v => v.severity = .error,
    violations.countP fun v => v.severity = .warning⟩

/-- What the record of reports is to tell: all of them, without the violations below a severity. -/
def Record.of (reports : List FileReport) (least : Severity) : Record :=
  let files := reports.map (FileReport.above least)
  ⟨LineLint.version, files, .of (violationsOf files)⟩

theorem filtered_eq (result : ScanResult) (least : Severity) :
    result.filtered least =
      result.violations.filter fun v => least = .warning ∨ v.severity = .error :=
  List.filter_congr fun v _ => Bool.eq_iff_iff.mpr (by rw [Severity.at_least_iff, decide_eq_true_iff])

theorem violation_of_json (v : Violation) : Violation.ofJson? v.toJson = some v := by
  simp [Violation.ofJson?, Violation.toJson, Json.under?, Json.field?, Json.text?, Json.count_of_nat,
    Json.optional_count_of_option, Severity.of_name_name]

theorem file_report_of_json (least : Severity) (report : FileReport) :
    FileReport.ofJson? (report.toJson least) = some (report.above least) := by
  have violations : Json.items? Violation.ofJson?
      (.array ((report.result.filtered least).map Violation.toJson)) =
        some (report.above least).result.violations := by
    rw [Json.items_of_map violation_of_json, List.map_id', filtered_eq]
    rfl
  simp [FileReport.ofJson?, FileReport.toJson, Json.under?, Json.field?, Json.text?, Json.count_of_nat,
    violations]
  rfl

theorem shown_violations (reports : List FileReport) (least : Severity) :
    (shownViolations reports least).map Prod.snd =
      violationsOf (reports.map (FileReport.above least)) := by
  rw [shownViolations, List.map_flatMap, violationsOf, List.flatMap_map]
  refine congrArg (reports.flatMap ·) (funext fun report => ?_)
  rw [List.map_map]
  exact (List.map_id _).trans (filtered_eq report.result least)

theorem tally_of_json (shown : List (String × Violation)) :
    Tally.ofJson? (summaryJson shown) = some (.of (shown.map Prod.snd)) := by
  simp [Tally.ofJson?, summaryJson, Json.under?, Json.field?, Json.count_of_nat, Tally.of, countOf,
    List.countP_map, Function.comp_def]

theorem record_of_json (reports : List FileReport) (least : Severity) :
    Record.ofJson? (reportJson reports least) = some (.of reports least) := by
  have files := Json.items_of_map (file_report_of_json least) reports
  have tally := tally_of_json (shownViolations reports least)
  rw [shown_violations] at tally
  simp [Record.ofJson?, reportJson, Json.under?, Json.field?, Json.text?, files, tally, Record.of]

/-- The text of a record is one value in ASCII, which reads back as all that is reported: the files in
    order, each with its violations from the least severity on, and how many violations that makes. -/
theorem report_record_lossless (reports : List FileReport) (least : Severity) :
    Json.Ascii (reportRecord reports least).toList ∧
    ∃ value, Json.Spelled (reportRecord reports least).toList (.padded value) ∧
      (∀ other, Json.Spelled (reportRecord reports least).toList (.padded other) → other = value) ∧
      Json.read (reportRecord reports least) = some value ∧
      Record.ofJson? value = some (.of reports least) := by
  have spelled := Json.pretty_spelled (reportJson reports least)
  refine ⟨Json.pretty_ascii _, reportJson reports least, spelled, ?_, Json.read_pretty _,
    record_of_json reports least⟩
  intro other also
  exact Json.spelled_unique also spelled

end Reports

end LineLint
