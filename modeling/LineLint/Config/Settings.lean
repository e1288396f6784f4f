import LineLint.Config
import LineLint.Config.Limits

/- Reading a configuration from a table of settings. A profile gives the values to start from, and
   the other settings replace them one by one. -/
namespace LineLint.Config

def knownKeys : List String :=
  ["profile", "min_severity", "include_rules", "exclude_rules", "categories"]

abbrev Settings := List (String × Value)

def unknownNames (names : List String) : List String :=
  Text.sortedNames (names.filter fun name => !knownKeys.contains name)

def checkKeys (names : List String) : Except ConfigFault Unit :=
  match unknownNames names with
  | [] => .ok ()
  | unknown => .error (.setting (.unknownKeys unknown))

section Reading

variable (limits : Limits)

/-- A fault that is told with the value of a setting, if the value can be written. Where an integer is
    too long for that, another fault takes its place. -/
def faultWith (key : String) (value : Value) (long : ConfigFault) (fault : SettingFault) :
    ConfigFault :=
  match limits.unwritten? key value with
  | none => .setting fault
  | some .tooDeep => .unchecked .tooDeepToWrite
  | some .longInteger => long

/-- A profile that is left out, or null, is the permissive one. -/
def readProfile : Option Value → Except ConfigFault Config
  | none => .ok permissive
  | some .null => .ok permissive
  | some value =>
      match value.text?.bind profile? with
      | some config => .ok config
      | none =>
          .error
            (faultWith limits "profile" value (.unchecked .longInteger) (.unknownProfile value))

def readSeverity (base : Severity) : Option Value → Except ConfigFault Severity
  | none => .ok base
  | some .null => .ok base
  | some value =>
      match value.text?.bind Severity.ofName? with
      | some severity => .ok severity
      | none =>
          .error
            (faultWith limits "min_severity" value (.setting .longSeverity) (.notSeverity value))

def readTexts (key : String) (value : Value) : Except ConfigFault (List String) :=
  match value.texts? with
  | some texts => .ok texts
  | none => .error (faultWith limits key value (.unchecked .longInteger) (.notTexts key value))

def readPatterns (key : String) (base : List String) :
    Option Value → Except ConfigFault (List String)
  | none => .ok base
  | some value =>
      match readTexts limits key value with
      | .error fault => .error fault
      | .ok texts => (checkPatterns key texts).mapError .setting

def unknownCategories (names : List String) : List String :=
  Text.sortedNames (names.filter fun name => (Category.ofName? name).isNone)

def readCategories (base : List String) : Option Value → Except ConfigFault (List String)
  | none => .ok base
  | some value =>
      match readTexts limits "categories" value with
      | .error fault => .error fault
      | .ok texts =>
          match unknownCategories texts with
          | [] => .ok texts
          | first :: _ => .error (.setting (.unknownCategory first))

def ofSettings (settings : Settings) : Except ConfigFault Config := do
  checkKeys (settings.map Prod.fst)
  let base ← readProfile limits (settings.lookup "profile")
  let minSeverity ← readSeverity limits base.minSeverity (settings.lookup "min_severity")
  let includeRules ←
    readPatterns limits "include_rules" base.includeRules (settings.lookup "include_rules")
  let excludeRules ←
    readPatterns limits "exclude_rules" base.excludeRules (settings.lookup "exclude_rules")
  let categories ← readCategories limits base.categories (settings.lookup "categories")
  pure { minSeverity, includeRules, excludeRules, categories }

end Reading

end LineLint.Config
