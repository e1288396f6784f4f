import LineLint.Text.Blank
import LineLint.Text.Word

/- Searching a text for the leftmost place that a recogniser accepts, and the small recognisers that
   larger ones are made of. -/
namespace LineLint.Text

/-- The leftmost place where a recogniser accepts what follows, as the number of characters in
    front of it. The recogniser is also shown the character before. -/
def leftmost {α : Type} (accepts : Option Char → List Char → Option α) (before : Option Char) :
    List Char → Option (Nat × α)
  | [] => (accepts before []).map fun a => (0, a)
  | c :: cs =>
      match accepts before (c :: cs) with
      | some a => some (0, a)
      | none => (leftmost accepts (some c) cs).map fun (n, a) => (n + 1, a)

def dropWord : List Char → List Char → Option (List Char)
  | [], cs => some cs
  | _ :: _, [] => none
  | w :: ws, c :: cs => if w = c then dropWord ws cs else none

def dropWordAt (word : List Char) (before : Option Char) (cs : List Char) : Option (List Char) :=
  if before.any isWord then none else dropWord word cs

def span (holds : Char → Bool) (cs : List Char) : List Char × List Char :=
  (cs.takeWhile holds, cs.dropWhile holds)

def takeSome (holds : Char → Bool) (cs : List Char) : Option (List Char × List Char) :=
  let (taken, rest) := span holds cs
  if taken.isEmpty then none else some (taken, rest)

def pieces (separator : Char) : List Char → List (List Char)
  | [] => [[]]
  | c :: cs =>
      if c = separator then [] :: pieces separator cs
      else
        match pieces separator cs with
        | [] => [[c]]
        | piece :: rest => (c :: piece) :: rest

def withoutFinalNewline (cs : List Char) : List Char :=
  if cs.getLast? = some '\n' then cs.dropLast else cs

end LineLint.Text
