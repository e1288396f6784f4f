import LineLint.CommandLine.Lint
import LineLint.CommandLine.RuleList

/- The command line: options of the program, a command, and what the command takes. -/
namespace LineLint.CommandLine

inductive Command where
  | lint
  | rules
  deriving DecidableEq, Repr

namespace Command

def all : List Command := [.lint, .rules]

def name : Command → String
  | .lint => "lint"
  | .rules => "rules"

def ofName? (s : String) : Option Command := all.find? fun command => command.name = s

def arguments : Command → String
  | .lint => "[OPTIONS] FILES..."
  | .rules => "[OPTIONS]"

end Command

def callText (program : String) : Option Command → String
  | none => program
  | some command => program ++ " " ++ command.name

def usageText (program : String) (place : Option Command) : String :=
  "Usage: " ++ callText program place ++ " " ++
    match place with
    | none => "[OPTIONS] COMMAND [ARGS]..."
    | some command => command.arguments

def faultText (program : String) (place : Option Command) (fault : UsageFault) : String :=
  let usage :=
    if fault.showsUsage then
      usageText program place ++ "\nTry '" ++ callText program place ++ " -h' for help.\n\n"
    else ""
  usage ++ "Error: " ++ fault.message

def answer {α : Type} (program : String) (command : Command) (perform : α → Run) :
    Except CallFault (Request α) → Run
  | .error (.usage fault) => .refused (faultText program (some command) fault)
  | .error (.unchecked fault) => ⟨[], .broken fault⟩
  | .ok .help => ⟨[output (usageText program (some command))], .exit 0⟩
  | .ok (.perform options) => perform options

def runCommand (program : String) (environment : Environment) (verbose : Bool) (command : Command)
    (line : List String) : Run :=
  match command with
  | .lint =>
      answer program .lint (lint verbose environment) (LintOptions.read environment line)
  | .rules =>
      answer program .rules (listRules environment) (RulesOptions.read environment line)

def versionForm : OptionForm := ⟨"--version", .flag (some 'V')⟩

def verboseForm : OptionForm := ⟨"--verbose", .flag (some 'v')⟩

def programForms : List OptionForm := [versionForm, verboseForm, helpForm]

def notice? (program : String) (words : Words) : Option String :=
  words.given.findSome? fun option =>
    if option.name = versionForm.name then some ("stylint " ++ version)
    else if option.name = helpForm.name then some (usageText program none)
    else none

/-- Reads the options of the program in front of a line, and goes on with the words unless a notice
    is asked for. -/
def withOptions (program : String) (line : List String) (goOn : Words → Run) : Run :=
  match readWords programForms false line with
  | .error fault => .refused (faultText program none fault)
  | .ok words =>
      match notice? program words with
      | some text => ⟨[output text], .exit 0⟩
      | none => goOn words

def isLetterOrNumber (c : Char) : Bool := Text.isWord c && c != '_'

def looksLikeOption (name : String) : Bool := name.toList.head?.any fun c => !isLetterOrNumber c

/-- No command has the name. Should it look like an option, the words are read once more for the
    options of the program. -/
def unknownCommand (program name : String) (rest : List String) : Run :=
  let refused : Run := .refused (faultText program none (.unknownCommand name))
  if looksLikeOption name then withOptions program (name :: rest) fun _ => refused else refused

def run (program : String) (environment : Environment) (line : List String) : Run :=
  if line.isEmpty then .refused (usageText program none)
  else
    withOptions program line fun words =>
      match words.others with
      | [] => .refused (faultText program none .missingCommand)
      | name :: rest =>
          match Command.ofName? name with
          | some command =>
              runCommand program environment (words.has verboseForm.name) command rest
          | none => unknownCommand program name rest

def pathsIn (directories : Except AccessFault (List String)) (line : List String) : List String :=
  let words := line ++ line.filterMap fun word => (nameAndValue word).2
  let above := match directories with
    | .ok directories => directories
    | .error _ => []
  words ++ words.map Path.normalized ++ above.flatMap Config.candidates

end LineLint.CommandLine
