import LineLint.Config.Fault

/- The files that a run can see. -/
namespace LineLint

/-- What stands at a path. A file or directory that is locked is there, but cannot be opened. -/
inductive Entry where
  | file (content : List UInt8)
  | directory
  | locked (isDirectory : Bool) (fault : AccessFault)
  deriving DecidableEq, Repr

/-- What a path text leads to, or why it leads nowhere. -/
abbrev Files := String → Except AccessFault Entry

namespace Files

def isDirectory (files : Files) (path : String) : Bool :=
  match files path with
  | .ok .directory => true
  | .ok (.locked isDirectory _) => isDirectory
  | _ => false

def isDenied (files : Files) (path : String) : Bool :=
  match files path with
  | .ok (.locked _ fault) => fault.number = AccessFault.denied.number
  | _ => false

def read (files : Files) (path : String) : Except AccessFault (List UInt8) :=
  match files path with
  | .ok (.file content) => .ok content
  | .ok .directory => .error .isDirectory
  | .ok (.locked _ fault) => .error fault
  | .error fault => .error fault

end Files

end LineLint
