import LineLint.Files
import LineLint.Path

/- A tree of files and directories, and the way path texts are followed in it. -/
namespace LineLint

/-- Files and empty directories by their parts below the root, the absolute path of the root, and
    the parts of the current directory. -/
structure FileTree where
  root : String
  entries : List (List String × Entry)
  current : List String

namespace FileTree

def longestName : Nat := 255

def pathLimit : Nat := 4096

def startsWith (path first : List String) : Bool := path.take first.length == first

def entry? (tree : FileTree) (place : List String) : Option Entry :=
  match tree.entries.lookup place with
  | some entry => some entry
  | none =>
      if startsWith tree.current place || tree.entries.any fun e => startsWith e.1 place then
        some .directory
      else none

/-- Follows the parts of a path from a directory. Outside the root (`none`) are directories only on
    the way up, and nothing else. -/
def follow (tree : FileTree) : Option (List String) → List String → Except AccessFault Entry
  | _, [] => .ok .directory
  | place, part :: rest =>
      if Path.isIdle part then follow tree place rest
      else if part = ".." then
        match place with
        | none => follow tree none rest
        | some [] => follow tree none rest
        | some (p :: ps) => follow tree (some (p :: ps).dropLast) rest
      else if longestName < part.utf8ByteSize then .error .longName
      else
        match place with
        | none => .error .missing
        | some place =>
            match tree.entry? (place ++ [part]) with
            | none => .error .missing
            | some .directory => follow tree (some (place ++ [part])) rest
            | some (.locked true fault) =>
                if rest.isEmpty then .ok (.locked true fault) else .error fault
            | some entry => if rest.isEmpty then .ok entry else .error .notDirectory

/-- A path from the root, from the top of the file system, or from the current directory. The empty
    path leads nowhere. -/
def find (tree : FileTree) : Files := fun path =>
  if path.isEmpty then .error .missing
  else if pathLimit ≤ path.utf8ByteSize then .error .longName
  else
    match Path.parts path with
    | "" :: rest => tree.follow none rest
    | first :: rest =>
        if first = tree.root then tree.follow (some []) rest
        else tree.follow (some tree.current) (first :: rest)
    | [] => .error .missing

def currentPath (tree : FileTree) : String := "/".intercalate (tree.root :: tree.current)

end FileTree

end LineLint
