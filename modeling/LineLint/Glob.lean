import LineLint.Glob.Bracket

/- Globs. A star stands for any text, a question mark for any character, a bracketed set for one
   character in it, and every other character for itself. A glob is matched against a whole text. -/
namespace LineLint

namespace Glob

inductive Piece where
  | character (c : Char)
  | any
  | run
  | bracket (set : Bracket)
  deriving DecidableEq, Repr

def Piece.accepts : Piece → Char → Bool
  | .character own, c => own == c
  | .any, _ => true
  | .run, _ => true
  | .bracket set, c => set.accepts c

def readWith : Nat → List Char → List Piece
  | 0, _ => []
  | _, [] => []
  | fuel + 1, '*' :: rest => .run :: readWith fuel rest
  | fuel + 1, '?' :: rest => .any :: readWith fuel rest
  | fuel + 1, '[' :: rest =>
      match Bracket.split rest with
      | some (inside, rest) => .bracket (Bracket.read inside) :: readWith fuel rest
      | none => .character '[' :: readWith fuel rest
  | fuel + 1, c :: rest => .character c :: readWith fuel rest

-- Every piece takes a character at least, so the length is fuel enough.
def read (pattern : List Char) : List Piece := readWith pattern.length pattern

def anyLater : List Bool → List Bool
  | [] => []
  | b :: rest => (b || rest.any id) :: anyLater rest

def step (p : Piece) : List Char → List Bool → List Bool
  | c :: cs, _ :: row => (p.accepts c && row.headD false) :: step p cs row
  | _, _ => [false]

def endings : List Piece → List Char → List Bool
  | [], cs => cs.map (fun _ => false) ++ [true]
  | .run :: pieces, cs => anyLater (endings pieces cs)
  | p :: pieces, cs => step p cs (endings pieces cs)

def matchesText (pieces : List Piece) (cs : List Char) : Bool := (endings pieces cs).headD false

end Glob

def isGlob (pattern : String) : Bool := pattern.toList.any fun c => c == '*' || c == '?' || c == '['

def globMatches (pattern text : String) : Bool :=
  Glob.matchesText (Glob.read pattern.toList) text.toList

/-- Patterns by kind: those that name one text, and those that are globs. -/
structure IdFilter where
  exact : List String
  globs : List (List Glob.Piece)
  deriving DecidableEq, Repr

namespace IdFilter

def ofPatterns (patterns : List String) : IdFilter :=
  ⟨patterns.filter fun p => !isGlob p,
    (patterns.filter isGlob).map fun p => Glob.read p.toList⟩

def accepts (filter : IdFilter) (id : String) : Bool :=
  filter.exact.contains id || filter.globs.any fun pieces => Glob.matchesText pieces id.toList

end IdFilter

end LineLint
