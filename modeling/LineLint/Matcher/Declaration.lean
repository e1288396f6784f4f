import LineLint.Matcher.Basic
import LineLint.Text.Search

/- Patterns in declarations. White space and word characters have nothing in common, so each run of
   either is taken whole. -/
namespace LineLint.Pattern
open LineLint.Text

def dropBinder (before : Option Char) (cs : List Char) : Option (List Char) := do
  let rest ← (dropWordAt ['l', 'e', 't'] before cs).or (dropWordAt ['v', 'a', 'r'] before cs)
  let (_, rest) ← takeSome isBlank rest
  pure rest

def offset (cs ending : List Char) : Nat := cs.length - ending.length

def isTightOrLate (blanksBefore after : List Char) : Bool :=
  !blanksBefore.isEmpty || after.head?.any fun c => !isBlank c

def colonAfterName (before : Option Char) (cs : List Char) : Option (Nat × List Char) := do
  let rest ← dropBinder before cs
  let (name, rest) ← takeSome isWord rest
  match span isBlank rest with
  | (blanks, ':' :: after) =>
      if isTightOrLate blanks after then some (offset cs (':' :: after), name) else none
  | _ => none

def findColon (cs : List Char) : Option Found :=
  (leftmost colonAfterName none cs).map fun (n, colon, name) =>
    ⟨n, .part (some (n + colon)), [("name", String.ofList name)]⟩

def misplacedColon : Pattern := ⟨.code, findColon⟩

def isHungarian : List Char → Bool
  | 'k' :: c :: _ => isAsciiUpper c
  | _ => false

def hungarianName (before : Option Char) (cs : List Char) : Option (Nat × List Char) := do
  let rest ← dropBinder before cs
  let name := rest.takeWhile isWord
  if isHungarian name then some (offset cs rest, name) else none

def findHungarian (cs : List Char) : Option Found :=
  (leftmost hungarianName none cs).map fun (n, start, name) =>
    ⟨n, .part (some (n + start)), [("name", String.ofList name)]⟩

def hungarian : Pattern := ⟨.code, findHungarian⟩

end LineLint.Pattern
