import LineLint.Text.Order

/- Similar texts. Two texts are matched along their longest common run, and on its two sides in the
   same way. Their similarity is the share of their characters that are matched. -/
namespace LineLint.Text

def commonStart : List Char → List Char → Nat
  | a :: as, b :: bs => if a = b then commonStart as bs + 1 else 0
  | _, _ => 0

/-- Equal characters in two texts: how many there are, and how many stand before them. -/
structure CommonRun where
  left : Nat
  right : Nat
  length : Nat
  deriving DecidableEq, Repr

/-- The common runs of two texts, each as long as can be, by their place in the first text and then
    in the second. -/
def commonRuns (a b : List Char) : List CommonRun :=
  (List.range a.length).flatMap fun i =>
    (List.range b.length).map fun j => ⟨i, j, commonStart (a.drop i) (b.drop j)⟩

def longer (best run : CommonRun) : CommonRun := if best.length < run.length then run else best

def longestRun (a b : List Char) : CommonRun := (commonRuns a b).foldl longer ⟨0, 0, 0⟩

def matchedWithin : Nat → List Char → List Char → Nat
  | 0, _, _ => 0
  | depth + 1, a, b =>
      let run := longestRun a b
      if run.length = 0 then 0
      else
        matchedWithin depth (a.take run.left) (b.take run.right) + run.length +
          matchedWithin depth (a.drop (run.left + run.length)) (b.drop (run.right + run.length))

-- A common run uses up a character of the first text, so its length bounds the nesting.
def matched (a b : List Char) : Nat := matchedWithin a.length a b

def isSimilar (word candidate : String) : Bool :=
  3 * (candidate.length + word.length) ≤ 10 * matched candidate.toList word.toList

def isCloser (word first second : String) : Bool :=
  let left := matched first.toList word.toList * (second.length + word.length)
  let right := matched second.toList word.toList * (first.length + word.length)
  right < left || (left == right && precedes second.toList first.toList)

def insertByCloseness (word candidate : String) : List String → List String
  | [] => [candidate]
  | other :: rest =>
      if isCloser word other candidate then other :: insertByCloseness word candidate rest
      else candidate :: other :: rest

def closest (word : String) (candidates : List String) : List String :=
  ((candidates.filter (isSimilar word)).foldr (insertByCloseness word) []).take 3

end LineLint.Text
