import LineLint.CommandLine.Boolean
import LineLint.Config.Fault

/- What can be wrong with a command line. -/
namespace LineLint

inductive UsageFault where
  | unknownOption (name : String) (similar : List String)
  | missingValue (name : String)
  | unwantedValue (name : String)
  | notChoice (name value : String) (choices : List String)
  | notBoolean (name value : String)
  | missingFiles
  | directory (path : String)
  | unreadableFile (path : String)
  | unreadablePath (option path : String)
  | extraWords (words : List String)
  | missingCommand
  | unknownCommand (name : String)
  deriving DecidableEq, Repr

namespace UsageFault

def suggestion : List String → String
  | [] => ""
  | [name] => " Did you mean " ++ name ++ "?"
  | names => " (Possible options: " ++ ", ".intercalate (Text.sortedNames names) ++ ")"

def invalidValue (name reason : String) : String :=
  "Invalid value for " ++ Text.quoted name ++ ": " ++ reason

def message : UsageFault → String
  | .unknownOption name similar => "No such option: " ++ name ++ suggestion similar
  | .missingValue name => "Option " ++ Text.quoted name ++ " requires an argument."
  | .unwantedValue name => "Option " ++ Text.quoted name ++ " does not take a value."
  | .notChoice name value choices =>
      invalidValue name
        (Text.quoted value ++ " is not one of " ++
          ", ".intercalate (choices.map Text.quoted) ++ ".")
  | .notBoolean name value =>
      invalidValue name
        (Text.quoted value ++ " is not a valid boolean. Recognized values: " ++
          ", ".intercalate CommandLine.booleanWords)
  | .missingFiles => "Missing argument 'FILES...'."
  | .directory path =>
      invalidValue "FILES..." ("File " ++ Text.quoted path ++ " is a directory.")
  | .unreadableFile path =>
      invalidValue "FILES..." ("File " ++ Text.quoted path ++ " is not readable.")
  | .unreadablePath name path =>
      invalidValue name ("Path " ++ Text.quoted path ++ " is not readable.")
  | .extraWords words =>
      let noun := if words.length = 1 then "argument" else "arguments"
      "Got unexpected extra " ++ noun ++ " (" ++ " ".intercalate words ++ ")"
  | .missingCommand => "Missing command."
  | .unknownCommand name => "No such command " ++ Text.quoted name ++ "."

def showsUsage : UsageFault → Bool
  | .missingValue _ => false
  | .unwantedValue _ => false
  | _ => true

end UsageFault

/-- What keeps a command from being performed: a call that is wrong, or a fault that no check
    expects. -/
inductive CallFault where
  | usage (fault : UsageFault)
  | unchecked (fault : UncheckedFault)
  deriving DecidableEq, Repr

end LineLint
