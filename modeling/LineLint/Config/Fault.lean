import LineLint.Category
import LineLint.Config.Value
import LineLint.Source

/- What can be wrong with a configuration. -/
namespace LineLint

/-- Why a file cannot be looked up or read: a number of the system, and a line of text for it. -/
structure AccessFault where
  number : Nat
  text : String
  single : '\n' ∉ text.toList
  deriving DecidableEq, Repr

namespace AccessFault

def missing : AccessFault := ⟨2, "No such file or directory", by decide⟩

def denied : AccessFault := ⟨13, "Permission denied", by decide⟩

def notDirectory : AccessFault := ⟨20, "Not a directory", by decide⟩

def isDirectory : AccessFault := ⟨21, "Is a directory", by decide⟩

def longName : AccessFault := ⟨36, "File name too long", by decide⟩

/-- The numbers of the faults that mean that nothing stands at a path: besides a file or directory that
    is missing, these are a bad descriptor and too many links. -/
def absences : List Nat := [2, 9, 20, 40]

def isAbsence (fault : AccessFault) : Bool := absences.contains fault.number

def notice (fault : AccessFault) : String :=
  "[Errno " ++ toString fault.number ++ "] " ++ fault.text

def message (fault : AccessFault) (path : String) : String :=
  fault.notice ++ ": " ++ Text.quoted path

end AccessFault

/-- A setting that means nothing, or a file that cannot be made sense of. -/
inductive SettingFault where
  | unknownKeys (names : List String)
  | unknownProfile (value : Value)
  | notSeverity (value : Value)
  | longSeverity
  | notTexts (key : String) (value : Value)
  | unknownRules (key : String) (ids : List String)
  | unknownCategory (name : String)
  | malformed (path : String)
  | unreadable (path : String) (fault : AccessFault)
  deriving Repr

/-- A fault that the checks of settings do not expect: settings that are no table, numbers that are
    too long, values that are nested too deep, and files and directories that cannot be looked up. -/
inductive UncheckedFault where
  | notIterable (kind : String)
  | unhashable (kind : String)
  | notOrdered (left right : String)
  | unlikeClocks
  | dateWithTime
  | notJoined (kind : String)
  | noFields (kind : String)
  | undecodable (fault : Text.DecodeFault)
  | longInteger
  | longLiteral (digits : Nat)
  | tooDeep
  | tooDeepToWrite
  | nullByte
  | unreachable (path : String) (fault : AccessFault)
  | lostDirectory (fault : AccessFault)
  deriving DecidableEq, Repr

inductive ConfigFault where
  | setting (fault : SettingFault)
  | unchecked (fault : UncheckedFault)
  deriving Repr

def profileNames : List String := ["strict", "recommended", "minimal"]

namespace SettingFault

def knownProfiles : String :=
  Value.commaSeparated (profileNames.map fun name => "\"" ++ name ++ "\"")

def knownCategories : String := Value.commaSeparated (Category.all.map Category.name)

def longIntegerText (digits : Option Nat) : String :=
  "Exceeds the limit (" ++ toString Value.mostDigits ++ " digits) for integer string conversion" ++
    (match digits with
     | none => ""
     | some n => ": value has " ++ toString n ++ " digits") ++
    "; use sys.set_int_max_str_digits() to increase the limit"

def message : SettingFault → String
  | .unknownKeys names => "Unknown config key(s): " ++ Value.commaSeparated names
  | .unknownProfile value =>
      "Unknown profile " ++ value.describe ++ ". Known profiles: " ++ knownProfiles
  | .notSeverity value => value.describe ++ " is not a valid Severity"
  | .longSeverity => longIntegerText none
  | .notTexts key value => key ++ " must be a list of strings, got " ++ value.describe
  | .unknownRules key ids =>
      "Unknown rule ID in " ++ key ++ ": " ++ Value.commaSeparated (ids.map Text.quoted)
  | .unknownCategory name =>
      "Unknown category " ++ Text.quoted name ++ ". Known categories: " ++ knownCategories
  | .malformed path => "Invalid TOML in " ++ path ++ ": <detail>"
  | .unreadable path fault => "Cannot read " ++ path ++ ": " ++ fault.message path

end SettingFault

def undecodableText (fault : Text.DecodeFault) : String := (EncodingFault.bytes fault).reason

def UncheckedFault.message : UncheckedFault → String
  | .notIterable kind => "'" ++ kind ++ "' object is not iterable"
  | .unhashable kind => "unhashable type: '" ++ kind ++ "'"
  | .notOrdered left right =>
      "'<' not supported between instances of '" ++ left ++ "' and '" ++ right ++ "'"
  | .unlikeClocks => "can't compare offset-naive and offset-aware datetimes"
  | .dateWithTime => "can't compare datetime.datetime to datetime.date"
  | .notJoined kind => "sequence item 0: expected str instance, " ++ kind ++ " found"
  | .noFields kind => "'" ++ kind ++ "' object has no attribute 'get'"
  | .undecodable fault => undecodableText fault
  | .longInteger => SettingFault.longIntegerText none
  | .longLiteral digits => SettingFault.longIntegerText (some digits)
  | .tooDeep => "maximum recursion depth exceeded"
  | .tooDeepToWrite => "maximum recursion depth exceeded while getting the repr of an object"
  | .nullByte => "embedded null byte"
  | .unreachable path fault => fault.message path
  | .lostDirectory fault => fault.notice

def ConfigFault.message : ConfigFault → String
  | .setting fault => fault.message
  | .unchecked fault => fault.message

end LineLint
