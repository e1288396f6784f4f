import LineLint.Text.Blank

/- Source lines. A line ends at a line feed, a carriage return, or the two together in that order;
   no other character ends a line. -/
namespace LineLint

def isTerminator (c : Char) : Bool := c == '\n' || c == '\r'

def consToFirst (c : Char) : List (List Char) → List (List Char)
  | [] => [[c]]
  | line :: rest => (c :: line) :: rest

/-- The lines of a text, without their terminators. The empty text has none, and a final terminator
    opens no further line. -/
def splitLines : List Char → List (List Char)
  | [] => []
  | '\r' :: '\n' :: rest => [] :: splitLines rest
  | c :: rest => if isTerminator c then [] :: splitLines rest else consToFirst c (splitLines rest)

/-- A source line beside its masked form, in which literals and comments are blanked out. -/
structure Line where
  number : Nat
  text : List Char
  code : List Char
  deriving DecidableEq, Repr

/-- The spaces and tabs that the raw line begins with. -/
def Line.indent (line : Line) : List Char := line.text.takeWhile Text.isSpaceOrTab

end LineLint
