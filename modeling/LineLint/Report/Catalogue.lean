import LineLint.Json.Printer
import LineLint.Report.Listing
import LineLint.Rule

/- The list of rules, in lines of text under a header for each group, or as one value of a data
   format. -/
namespace LineLint

def groupTitle (group : String) : String :=
  match Category.ofName? group with
  | some category => category.title
  | none => if group.isEmpty then "Other" else group

def addToGroup (rule : Rule) : List (String × List Rule) → List (String × List Rule)
  | [] => [(rule.group.text, [rule])]
  | (group, rules) :: rest =>
      if group = rule.group.text then (group, rules ++ [rule]) :: rest
      else (group, rules) :: addToGroup rule rest

def grouped (rules : List Rule) : List (String × List Rule) :=
  rules.foldl (fun groups rule => addToGroup rule groups) []

def lineWidth : Nat := 66

def padRight (width : Nat) (s : String) : String :=
  s ++ String.ofList (List.replicate (width - s.length) ' ')

def maxLength (texts : List String) : Nat := texts.foldl (fun n s => max n s.length) 0

def groupHeader (group : String) (count : Nat) : String :=
  let header := "── " ++ groupTitle group ++ " (" ++ toString count ++ ") "
  header ++ String.ofList (List.replicate (lineWidth - header.length) '─')

def ruleLine (color : Bool) (idWidth severityWidth : Nat) (rule : Rule) : String :=
  "  " ++ Text.styled color .bold (padRight idWidth rule.id) ++ "  " ++
    Text.styled color rule.severity.style (padRight severityWidth rule.severity.name) ++ "  " ++
    rule.summary

def groupLines (color : Bool) (idWidth severityWidth : Nat) (group : String × List Rule) :
    List String :=
  ["", Text.styled color .bold (groupHeader group.1 group.2.length), ""] ++
    group.2.map (ruleLine color idWidth severityWidth)

def catalogueHeader (count : Nat) (total : Option Nat) : String :=
  let filtered := match total with
    | none => ""
    | some total => if total = count then "" else " (filtered from " ++ toString total ++ ")"
  "stylint " ++ version ++ " - " ++ toString count ++ " rules" ++ filtered

def catalogueLines (color : Bool) (rules : List Rule) (total : Option Nat) : List String :=
  let idWidth := maxLength (rules.map Rule.id)
  let severityWidth := maxLength (rules.map fun rule => rule.severity.name)
  catalogueHeader rules.length total ::
    (grouped rules).flatMap (groupLines color idWidth severityWidth)

def catalogueText (color : Bool) (rules : List Rule) (total : Option Nat) : String :=
  "\n".intercalate (catalogueLines color rules total)

def Rule.toJson (rule : Rule) : Json :=
  .object
    [("id", .text rule.id), ("severity", .text rule.severity.name), ("summary", .text rule.summary),
     ("hint", .text rule.hint), ("category", .text rule.group.text)]

def catalogueJson (rules : List Rule) : Json :=
  .object
    [("version", .text version), ("rules", .array (rules.map Rule.toJson)),
     ("total", .ofNat rules.length)]

def catalogueRecord (rules : List Rule) : String := (catalogueJson rules).pretty

end LineLint
