/- How serious a violation is. -/
namespace LineLint

inductive Severity where
  | warning
  | error
  deriving DecidableEq, Repr

namespace Severity

def all : List Severity := [.warning, .error]

def name : Severity → String
  | .warning => "warning"
  | .error => "error"

def level : Severity → Nat
  | .warning => 0
  | .error => 1

def ofName? (s : String) : Option Severity := all.find? fun severity => severity.name = s

def atLeast (severity least : Severity) : Bool := least.level ≤ severity.level

theorem at_least_iff {severity least : Severity} :
    severity.atLeast least = true ↔ least = .warning ∨ severity = .error := by
  cases severity <;> cases least <;> decide

theorem of_name_name (severity : Severity) : ofName? severity.name = some severity := by
  cases severity <;> decide

end Severity

end LineLint
