import LineLint.CommandLine.Words
import LineLint.Config
import LineLint.Config.Limits
import LineLint.Files

/- What a command line asks for. -/
namespace LineLint.CommandLine

inductive Format where
  | text
  | json
  deriving DecidableEq, Repr

namespace Format

def all : List Format := [.text, .json]

def name : Format → String
  | .text => "text"
  | .json => "json"

def ofName? (s : String) : Option Format := all.find? fun format => format.name = s

end Format

/-- What a run depends on besides its words: the files, the current directory with those above it,
    nearest first, the variable that turns colour off, and the room there is for nested values. -/
structure Environment where
  files : Files
  directories : Except AccessFault (List String)
  noColor : Option String
  limits : Limits

structure LintOptions where
  files : List String
  format : Format
  excludeRules : List String
  minSeverity : Severity
  noColor : Bool
  config : Option String
  profile : Option Config
  deriving DecidableEq, Repr

structure RulesOptions where
  format : Format
  noColor : Bool
  category : Option Category
  severity : Option Severity
  deriving DecidableEq, Repr

inductive Request (α : Type) where
  | help
  | perform (options : α)
  deriving DecidableEq, Repr

def helpForm : OptionForm := ⟨"--help", .flag (some 'h')⟩

def formatForm : OptionForm := ⟨"--format", .choice (Format.all.map Format.name)⟩

def noColorForm : OptionForm := ⟨"--no-color", .flag none⟩

def severityForm (name : String) : OptionForm := ⟨name, .choice (Severity.all.map Severity.name)⟩

def lintForms : List OptionForm :=
  [formatForm, ⟨"--exclude-rules", .free⟩, severityForm "--min-severity", noColorForm,
   ⟨"--config", .path⟩, ⟨"--profile", .choice profileNames⟩, helpForm]

def rulesForms : List OptionForm :=
  [formatForm, noColorForm, ⟨"--category", .choice (Category.all.map Category.name)⟩,
   severityForm "--severity", helpForm]

namespace Words

def format (words : Words) : Format :=
  ((words.value? formatForm.name).bind Format.ofName?).getD .text

/-- Colour is unwanted if the option says so, or else if the variable does. -/
def noColor (words : Words) (setting : Option String) : Except UsageFault Bool :=
  if words.has noColorForm.name then .ok true
  else
    match setting with
    | none => .ok false
    | some value =>
        match booleanOf? value with
        | some answer => .ok answer
        | none => .error (.notBoolean noColorForm.name value)

end Words

def patternsIn (s : String) : List String :=
  (((Text.pieces ',' s.toList).map Text.strip).filter fun p => !p.isEmpty).map String.ofList

/-- The fault of a path to check: it is one that no file has, or that of a directory or of a file that
    may not be read. -/
def pathFault? (files : Files) (path : String) : Option CallFault :=
  if Path.holdsNull path then some (.unchecked .nullByte)
  else if files.isDirectory path then some (.usage (.directory path))
  else if files.isDenied path then some (.usage (.unreadableFile path))
  else none

def checkFiles (files : Files) (paths : List String) : Except CallFault Unit :=
  if paths.isEmpty then .error (.usage .missingFiles)
  else
    match paths.findSome? (pathFault? files) with
    | some fault => .error fault
    | none => .ok ()

/-- The options of a lint run. The values of options are checked before the files, and the files
    before the variable. -/
def LintOptions.read (environment : Environment) (line : List String) :
    Except CallFault (Request LintOptions) := do
  let words ← (readWords lintForms true line).mapError .usage
  if words.has helpForm.name then return .help
  checkValues environment.files lintForms words
  checkFiles environment.files words.others
  let noColor ← (words.noColor environment.noColor).mapError .usage
  return .perform
    { files := words.others
      format := words.format
      excludeRules := patternsIn ((words.value? "--exclude-rules").getD "")
      minSeverity := ((words.value? "--min-severity").bind Severity.ofName?).getD .warning
      noColor := noColor
      config := words.value? "--config"
      profile := (words.value? "--profile").bind Config.profile? }

def RulesOptions.read (environment : Environment) (line : List String) :
    Except CallFault (Request RulesOptions) := do
  let words ← (readWords rulesForms true line).mapError .usage
  if words.has helpForm.name then return .help
  checkValues environment.files rulesForms words
  let noColor ← (words.noColor environment.noColor).mapError .usage
  if !words.others.isEmpty then throw (.usage (.extraWords words.others))
  return .perform
    { format := words.format
      noColor := noColor
      category := (words.value? "--category").bind Category.ofName?
      severity := (words.value? "--severity").bind Severity.ofName? }

end LineLint.CommandLine
