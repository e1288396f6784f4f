import LineLint.CommandLine.Options
import LineLint.CommandLine.Output
import LineLint.Report.Catalogue
import LineLint.Rule.Builtin

/- Listing the built-in rules. -/
namespace LineLint.CommandLine

def RulesOptions.wants (options : RulesOptions) (rule : Rule) : Bool :=
  options.category.all (fun category => rule.group.text = category.name) &&
    options.severity.all fun severity => rule.severity = severity

/-- The rules of a category and of a severity, where one is asked for. -/
def RulesOptions.rules (options : RulesOptions) : List Rule := Rule.builtin.filter options.wants

def RulesOptions.total (options : RulesOptions) : Option Nat :=
  if options.category.isSome || options.severity.isSome then some Rule.builtin.length else none

def listRules (environment : Environment) (options : RulesOptions) : Run :=
  let text := match options.format with
    | .json => catalogueRecord options.rules
    | .text =>
        catalogueText (usesColor options.noColor environment.noColor) options.rules options.total
  ⟨[output text], .exit 0⟩

end LineLint.CommandLine
