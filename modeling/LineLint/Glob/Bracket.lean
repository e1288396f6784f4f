import LineLint.Line

/- Bracketed sets of characters: single characters, ranges with a hyphen, and their complement after
   an exclamation mark. A closing bracket that comes first belongs to the set. -/
namespace LineLint

namespace Bracket

inductive Item where
  | single (c : Char)
  | range (lo hi : Char)
  deriving DecidableEq, Repr

def Item.holds : Item → Char → Bool
  | .single own, c => own == c
  | .range lo hi, c => lo.toNat ≤ c.toNat && c.toNat ≤ hi.toNat

end Bracket

structure Bracket where
  negated : Bool
  items : List Bracket.Item
  deriving DecidableEq, Repr

namespace Bracket

def accepts (set : Bracket) (c : Char) : Bool :=
  (set.items.any fun item => item.holds c) != set.negated

def splitAt : List Char → Option (List Char × List Char)
  | [] => none
  | ']' :: rest => some ([], rest)
  | c :: rest => (splitAt rest).map fun (inside, after) => (c :: inside, after)

def splitFirst : List Char → Option (List Char × List Char)
  | ']' :: rest => (splitAt rest).map fun (inside, after) => (']' :: inside, after)
  | rest => splitAt rest

/-- Splits after the opening bracket. The first character of the set, or the one after the
    exclamation mark, closes nothing. -/
def split : List Char → Option (List Char × List Char)
  | '!' :: rest => (splitFirst rest).map fun (inside, after) => ('!' :: inside, after)
  | rest => splitFirst rest

/-- Cuts a set at the hyphens that make ranges. A hyphen at one of the next `kept` places, or within
    two places after another such hyphen, stands for itself. -/
def chunks : Nat → List Char → List (List Char)
  | _, [] => [[]]
  | 0, '-' :: rest => [] :: chunks 2 rest
  | kept, c :: rest => consToFirst c (chunks (kept - 1) rest)

def closeChunks : List (List Char) → List (List Char)
  | [] => []
  | [chunk] => [chunk]
  | [chunk, []] => [chunk ++ ['-']]
  | chunk :: rest => chunk :: closeChunks rest

def isEmptyRange (chunk next : List Char) : Bool :=
  match chunk.getLast?, next.head? with
  | some lo, some hi => hi.toNat < lo.toNat
  | _, _ => false

def dropEmptyRanges : List (List Char) → List (List Char)
  | [] => []
  | chunk :: rest =>
      match dropEmptyRanges rest with
      | [] => [chunk]
      | next :: later =>
          if isEmptyRange chunk next then (chunk.dropLast ++ next.tail) :: later
          else chunk :: next :: later

/-- The items of a chunk whose first `taken` characters are spent on the range before it. Between
    two chunks is a range; a hyphen with nothing in front of it stands for itself. -/
def readItems (taken : Nat) : List (List Char) → List Item
  | [] => []
  | [chunk] => (chunk.drop taken).map .single
  | chunk :: next :: rest =>
      let own := chunk.drop taken
      match own.getLast?, next.head? with
      | some lo, some hi => own.dropLast.map .single ++ .range lo hi :: readItems 1 (next :: rest)
      | _, _ => .single '-' :: readItems 0 (next :: rest)

def read (inside : List Char) : Bracket :=
  let kept := if inside.head? = some '!' then 2 else 1
  match dropEmptyRanges (closeChunks (chunks kept inside)) with
  | ('!' :: first) :: rest => ⟨true, readItems 0 (first :: rest)⟩
  | all => ⟨false, readItems 0 all⟩

end Bracket

end LineLint
