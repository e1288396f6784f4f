import LineLint.Masker.Run
import LineLint.Source
import LineLint.Violation

/- Scanning: every line is checked against every rule. A rule that fails on a line is passed over
   there, and has no influence on the other rules and lines. -/
namespace LineLint

inductive Finding where
  | nothing
  | failed (ruleId : String) (line : Nat) (fault : RuleFault)
  | violation (v : Violation)
  deriving DecidableEq, Repr

namespace Finding

def ofCheck (rule : Rule) (line : Line) : Finding :=
  match rule.check line with
  | .error fault => .failed rule.id line.number fault
  | .ok none => .nothing
  | .ok (some (hit, message)) => .violation (.ofHit rule line hit message)

def violation? : Finding → Option Violation
  | .violation v => some v
  | _ => none

end Finding

def findings (rules : List Rule) (lines : List Line) : List Finding :=
  lines.flatMap fun line => rules.map fun rule => Finding.ofCheck rule line

def scanLines (rules : List Rule) (lines : List Line) : ScanResult :=
  ⟨(findings rules lines).filterMap Finding.violation?, lines.length⟩

def scanText (rules : List Rule) (text : List Char) : ScanResult :=
  scanLines rules (sourceLines text)

/-- A source is read as a whole before any rule is applied. -/
def scan (rules : List Rule) (source : Source) : Except EncodingFault ScanResult :=
  source.text.map (scanText rules)

inductive ScanEvent where
  | failed (ruleId : String) (line : Nat) (fault : RuleFault)
  | found (v : Violation)
  | finished (lineCount ruleCount violationCount : Nat)
  deriving DecidableEq, Repr

namespace ScanEvent

def ofFinding? : Finding → Option ScanEvent
  | .nothing => none
  | .failed ruleId line fault => some (.failed ruleId line fault)
  | .violation v => some (.found v)

def isDebug : ScanEvent → Bool
  | .failed .. => false
  | _ => true

def message : ScanEvent → String
  | .failed ruleId line _ => "Rule " ++ ruleId ++ " raised on line " ++ toString line
  | .found v =>
      "[" ++ v.ruleId ++ "] " ++ v.severity.name ++ " " ++ v.location ++ " " ++ v.message
  | .finished lineCount ruleCount violationCount =>
      "Scanned " ++ toString lineCount ++ " lines with " ++ toString ruleCount ++ " rules: " ++
        toString violationCount ++ " violations"

end ScanEvent

def scanEvents (rules : List Rule) (text : List Char) : List ScanEvent :=
  let lines := sourceLines text
  let found := findings rules lines
  found.filterMap ScanEvent.ofFinding? ++
    [.finished lines.length rules.length (found.filterMap Finding.violation?).length]

end LineLint
