import LineLint.Report
import LineLint.Text.Ansi

/- The report in lines of text. -/
namespace LineLint

def Severity.style : Severity → Text.Style
  | .error => .red
  | .warning => .yellow

/-- Colour is off if it is not wanted or if the environment names a value for the variable that
    turns it off. -/
def usesColor (noColor : Bool) (setting : Option String) : Bool :=
  !noColor && (setting.getD "").isEmpty

def violationLine (color : Bool) (before : String) (v : Violation) : String :=
  before ++ v.location ++ " " ++ Text.styled color v.severity.style v.severity.name ++ ": " ++
    v.message ++ " [" ++ v.ruleId ++ "]"

/-- The path stands in front of a line if there is more than one report. -/
def reportLines (color : Bool) (reports : List FileReport) (least : Severity) : List String :=
  let showPath := 1 < reports.length
  (shownViolations reports least).map fun (path, v) =>
    violationLine color (if showPath then path ++ ":" else "") v

def countText (color : Bool) (shown : List (String × Violation)) (severity : Severity) :
    Option String :=
  let count := countOf severity shown
  if count = 0 then none
  else some (Text.styled color severity.style (toString count ++ " " ++ severity.name))

/-- How many violations are shown, and how many of each severity; errors come first. -/
def summaryLine (color : Bool) (reports : List FileReport) (least : Severity) : String :=
  let shown := shownViolations reports least
  if shown.isEmpty then Text.styled color .green "No violations found."
  else
    let noun := if shown.length = 1 then "violation" else "violations"
    toString shown.length ++ " " ++ noun ++ " (" ++
      ", ".intercalate ([Severity.error, .warning].filterMap (countText color shown)) ++ ")"

end LineLint
