import LineLint.Category
import LineLint.Matcher.Basic
import LineLint.Severity
import LineLint.Template.Fill

/- Rules: what a line is checked for, and what is said about a line that fails. -/
namespace LineLint

structure Rule where
  id : String
  severity : Severity
  summary : String
  matcher : Matcher
  hint : String
  group : Group

/-- Why a rule said nothing about a line although it may have had something to say. -/
inductive RuleFault where
  | matcher (description : String)
  | template (fault : Template.Fault)
  deriving DecidableEq, Repr

def RuleFault.message : RuleFault → String
  | .matcher description => description
  | .template fault => fault.message

namespace Rule

def render (rule : Rule) (hit : Hit) : Except Template.Fault String :=
  if hit.params.isEmpty then .ok rule.summary else Template.fill hit.params rule.summary

def check (rule : Rule) (line : Line) : Except RuleFault (Option (Hit × String)) :=
  match rule.matcher line with
  | .error description => .error (.matcher description)
  | .ok none => .ok none
  | .ok (some hit) =>
      match rule.render hit with
      | .error fault => .error (.template fault)
      | .ok message => .ok (some (hit, message))

def agrees (rule other : Rule) : Bool :=
  rule.id == other.id && rule.severity == other.severity && rule.summary == other.summary &&
    rule.hint == other.hint && rule.group.text == other.group.text

def title (rule : Rule) : String := "[" ++ rule.id ++ "] " ++ rule.summary

def memberText (type name : String) : String :=
  "<" ++ type ++ "." ++ String.ofList (name.toList.map Char.toUpper) ++ ": " ++
    Text.quoted name ++ ">"

def groupText : Group → String
  | .category c => memberText "Category" c.name
  | .word s => Text.quoted s

def describe (rule : Rule) : String :=
  "Rule(id=" ++ Text.quoted rule.id ++
    ", severity=" ++ memberText "Severity" rule.severity.name ++
    ", summary=" ++ Text.quoted rule.summary ++
    ", hint=" ++ Text.quoted rule.hint ++
    ", category=" ++ groupText rule.group ++ ")"

end Rule

end LineLint
