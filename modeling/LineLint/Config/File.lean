import LineLint.Config.LooseNames
import LineLint.Files
import LineLint.Path
import LineLint.Toml.Document

/- Configuration files. A file of the tool's own holds settings at its top; a project file holds
   them in a table of its own. The nearest file at or above the current directory is used. -/
namespace LineLint.Config

def ownFile : String := ".stylint.toml"

def projectFile : String := "pyproject.toml"

def toolSection (fields : Settings) : Except ConfigFault Value :=
  match (fields.lookup "tool").getD (.table []) with
  | .table tools => .ok ((tools.lookup "stylint").getD (.table []))
  | other => .error (.unchecked (.noFields other.kind))

def settingsIn (room : Toml.Room) (path : String) (text : List Char) : Except ConfigFault Value :=
  match Toml.parse room text with
  | .error .malformed => .error (.setting (.malformed path))
  | .error (.longInteger digits) => .error (.unchecked (.longLiteral digits))
  | .error .tooDeep => .error (.unchecked .tooDeep)
  | .ok fields =>
      if Path.name path = projectFile then toolSection fields else .ok (.table fields)

def readFile (room : Toml.Room) (files : Files) (path : String) : Except ConfigFault Value :=
  match files.read path with
  | .error fault => .error (.setting (.unreadable path fault))
  | .ok bytes =>
      match Text.decode bytes with
      | .error fault => .error (.unchecked (.undecodable fault))
      | .ok text => settingsIn room path text

/-- The files that are looked for in a directory, the tool's own first. -/
def candidates (directory : String) : List String :=
  [Path.join directory ownFile, Path.join directory projectFile]

/-- The first file of several that is there. A fault other than an absence ends the search. -/
def found? (files : Files) : List String → Except ConfigFault (Option String)
  | [] => .ok none
  | path :: rest =>
      match files path with
      | .ok _ => .ok (some path)
      | .error fault =>
          if fault.isAbsence then found? files rest
          else .error (.unchecked (.unreachable path fault))

/-- The file to read: the one asked for, or else the nearest in the directories to look in. No file
    has a null in its name. -/
def chosen? (files : Files) (directories : Except AccessFault (List String)) :
    Option String → Except ConfigFault (Option String)
  | some path =>
      let path := Path.normalized path
      if Path.holdsNull path then .ok none else found? files [path]
  | none =>
      match directories with
      | .ok directories => found? files (directories.flatMap candidates)
      | .error fault => .error (.unchecked (.lostDirectory fault))

def load (limits : Limits) (files : Files) (directories : Except AccessFault (List String))
    (path : Option String) : Except ConfigFault Config := do
  match ← chosen? files directories path with
  | none => ofValue limits (.table [])
  | some path => (readFile limits.reads files path).bind (ofValue limits)

end LineLint.Config
