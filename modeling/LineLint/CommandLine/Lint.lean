import LineLint.CommandLine.Options
import LineLint.CommandLine.Output
import LineLint.Config.File
import LineLint.Registry
import LineLint.Report.Listing
import LineLint.Report.Record
import LineLint.Scan.File

/- Checking files. A file that cannot be read or decoded is passed over with a message. -/
namespace LineLint.CommandLine

/-- The configuration in a file, or else in the nearest one. -/
def Environment.config (environment : Environment) (path : Option String) :
    Except ConfigFault Config :=
  Config.load environment.limits environment.files environment.directories path

/-- The configuration of a run: what is loaded, with the profile that is asked for in place of the
    one loaded, less the rules to exclude. -/
def LintOptions.settle (options : LintOptions) (loaded : Config) : Except SettingFault Config :=
  let config := match options.profile with
    | some profile => loaded.underProfile profile
    | none => loaded
  (Config.checkPatterns "--exclude-rules" options.excludeRules).map config.excluding

def scanReport (files : Files) (rules : List Rule) (path : String) :
    Except InputFault FileReport :=
  (scanFile files rules path).map fun result => ⟨path, result⟩

def fileReports (files : Files) (rules : List Rule) (paths : List String) : List FileReport :=
  paths.filterMap fun path => (scanReport files rules path).toOption

def isUnscanned (files : Files) (rules : List Rule) (path : String) : Bool :=
  (scanReport files rules path).toOption.isNone

def eventLine (event : ScanEvent) : Printed :=
  errorText ((if event.isDebug then "DEBUG" else "ERROR") ++ " stylint: " ++ event.message)

def fileLines (verbose : Bool) (files : Files) (rules : List Rule) (path : String) :
    List Printed :=
  match readSource files path with
  | .error fault => [errorText ("Error: " ++ fault.message)]
  | .ok text => if verbose then (scanEvents rules text).map eventLine else []

def reportOutput (options : LintOptions) (color : Bool) (reports : List FileReport) :
    List Printed :=
  match options.format with
  | .json => [output (reportRecord reports options.minSeverity)]
  | .text =>
      (reportLines color reports options.minSeverity).map output ++
        [errorText (summaryLine color reports options.minSeverity)]

def lintExit (unscanned : Bool) (reports : List FileReport) : Nat :=
  if unscanned then badInput
  else if reports.any fun report => report.result.hasErrors then 1
  else 0

def lintFiles (verbose : Bool) (environment : Environment) (options : LintOptions)
    (rules : List Rule) : Run :=
  let reports := fileReports environment.files rules options.files
  let color := usesColor options.noColor environment.noColor
  ⟨options.files.flatMap (fileLines verbose environment.files rules) ++
      reportOutput options color reports,
    .exit (lintExit (options.files.any (isUnscanned environment.files rules)) reports)⟩

def lint (verbose : Bool) (environment : Environment) (options : LintOptions) : Run :=
  match environment.config options.config with
  | .error (.unchecked fault) => ⟨[], .broken fault⟩
  | .error (.setting fault) => .refused ("Error: invalid config: " ++ fault.message)
  | .ok loaded =>
      match options.settle loaded with
      | .error fault => .refused ("Error: " ++ fault.message)
      | .ok config =>
          lintFiles verbose environment options (Registry.builtin.select config).rules

end LineLint.CommandLine
