import LineLint.Violation

/- What is reported about the files of a run: their results, of which the violations below the least
   severity asked for are left out. -/
namespace LineLint

def version : String := "0.1.0"

structure FileReport where
  path : String
  result : ScanResult
  deriving DecidableEq, Repr

def shownViolations (reports : List FileReport) (least : Severity) : List (String × Violation) :=
  reports.flatMap fun report => (report.result.filtered least).map fun v => (report.path, v)

def countOf (severity : Severity) (shown : List (String × Violation)) : Nat :=
  shown.countP fun entry => entry.2.severity = severity

end LineLint
