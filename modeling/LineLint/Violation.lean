import LineLint.Rule

/- Violations: one line failing one rule, and the result of scanning one source. -/
namespace LineLint

structure Violation where
  ruleId : String
  severity : Severity
  line : Nat
  message : String
  column : Option Nat
  hint : String
  deriving DecidableEq, Repr

namespace Violation

def location (v : Violation) : String :=
  match v.column with
  | none => toString v.line ++ ":"
  | some column => toString v.line ++ ":" ++ toString column ++ ":"

def ofHit (rule : Rule) (line : Line) (hit : Hit) (message : String) : Violation :=
  ⟨rule.id, rule.severity, line.number, message, hit.column, rule.hint⟩

end Violation

/-- The violations of a source, by line and then by the order of the rules. -/
structure ScanResult where
  violations : List Violation
  lineCount : Nat
  deriving DecidableEq, Repr

namespace ScanResult

def ofSeverity (result : ScanResult) (severity : Severity) : List Violation :=
  result.violations.filter fun v => v.severity = severity

def errors (result : ScanResult) : List Violation := result.ofSeverity .error

def warnings (result : ScanResult) : List Violation := result.ofSeverity .warning

def hasErrors (result : ScanResult) : Bool := result.violations.any fun v => v.severity = .error

/-- The violations that are at least as serious as asked for. -/
def filtered (result : ScanResult) (least : Severity) : List Violation :=
  result.violations.filter fun v => v.severity.atLeast least

end ScanResult

end LineLint
