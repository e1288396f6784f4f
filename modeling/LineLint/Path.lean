import LineLint.Text.Search

/- Path texts: parts with slashes between them. -/
namespace LineLint.Path

def parts (path : String) : List String := (Text.pieces '/' path.toList).map String.ofList

def isIdle (part : String) : Bool := part == "" || part == "."

/-- A null character ends a text of the file system, so that no path holds one. -/
def holdsNull (path : String) : Bool := path.toList.contains (Char.ofNat 0)

def start (path : String) : String :=
  match path.toList with
  | '/' :: '/' :: '/' :: _ => "/"
  | '/' :: '/' :: _ => "//"
  | '/' :: _ => "/"
  | _ => ""

def normalized (path : String) : String :=
  let text := start path ++ "/".intercalate ((parts path).filter fun part => !isIdle part)
  if text.isEmpty then "." else text

def name (path : String) : String :=
  (((parts path).filter fun part => !isIdle part).getLast?).getD ""

def join (directory file : String) : String :=
  if directory = "/" then "/" ++ file else directory ++ "/" ++ file

def ancestors (first : String) : List String → List String
  | [] => [if first.isEmpty then "/" else first]
  | part :: above => "/".intercalate (first :: (part :: above).reverse) :: ancestors first above

/-- The directories from one up to the top, given its absolute path. -/
def upward (directory : String) : List String :=
  match (parts directory).filter fun part => part != "." with
  | [] => []
  | first :: rest => ancestors first (rest.filter fun part => part != "").reverse

end LineLint.Path
