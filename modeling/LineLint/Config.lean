import LineLint.Config.Fault
import LineLint.Glob
import LineLint.Rule.Builtin
import LineLint.Text.Order

/- Which rules run. The least severity is asked first, then the categories, then the rules to
   include, then the rules to exclude. An empty list of categories or of rules to include asks for
   nothing. -/
namespace LineLint

/-- The lists are read as sets. -/
structure Config where
  minSeverity : Severity
  includeRules : List String
  excludeRules : List String
  categories : List String
  deriving DecidableEq, Repr

namespace Config

def permissive : Config := ⟨.warning, [], [], []⟩

def includes (config : Config) (id : String) : Bool :=
  config.includeRules.isEmpty || (IdFilter.ofPatterns config.includeRules).accepts id

def excludes (config : Config) (id : String) : Bool :=
  (IdFilter.ofPatterns config.excludeRules).accepts id

def coversGroup (config : Config) (group : Group) : Bool :=
  config.categories.isEmpty || config.categories.contains group.text

def allows (config : Config) (rule : Rule) : Bool :=
  rule.severity.atLeast config.minSeverity && config.coversGroup rule.group &&
    config.includes rule.id && !config.excludes rule.id

def profile? : String → Option Config
  | "strict" => some permissive
  | "recommended" => some { permissive with excludeRules := ["trailing-whitespace"] }
  | "minimal" => some { permissive with minSeverity := .error }
  | _ => none

def underProfile (config profile : Config) : Config :=
  { profile with excludeRules := profile.excludeRules ++ config.excludeRules }

def excluding (config : Config) (patterns : List String) : Config :=
  { config with excludeRules := config.excludeRules ++ patterns }

def unknownIds (patterns : List String) : List String :=
  Text.sortedNames (patterns.filter fun p => !isGlob p && !Rule.builtinIds.contains p)

def checkPatterns (key : String) (patterns : List String) : Except SettingFault (List String) :=
  match unknownIds patterns with
  | [] => .ok patterns
  | unknown => .error (.unknownRules key unknown)

end Config

end LineLint
