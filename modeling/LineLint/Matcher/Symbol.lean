import LineLint.Matcher.Basic
import LineLint.Text.Search

/- Patterns that look for one symbol: a character, an exclamation after a keyword, or a brace that
   stands alone on its line. -/
namespace LineLint.Pattern
open LineLint.Text

def findCharacter (sought : Char) (cs : List Char) : Option Found :=
  (leftmost (fun _ rest => if rest.head? = some sought then some () else none) none cs).map
    fun (n, _) => ⟨n, .start, []⟩

def character (subject : Subject) (sought : Char) : Pattern := ⟨subject, findCharacter sought⟩

def findWord (word cs : List Char) : Option Found :=
  (leftmost (dropWordAt word) none cs).map fun (n, _) => ⟨n, .start, []⟩

def word (sought : String) : Pattern := ⟨.code, findWord sought.toList⟩

/-- Nothing follows on the line but a comment, if anything. A line feed at its very end does not
    belong to a comment. -/
def isLineRest : List Char → Bool
  | [] => true
  | '/' :: '/' :: comment => !(withoutFinalNewline comment).contains '\n'
  | _ => false

def findLoneBrace (cs : List Char) : Option Found :=
  match span isBlank cs with
  | (before, '{' :: after) =>
      if isLineRest (after.dropWhile isBlank) then some ⟨0, .part (some before.length), []⟩
      else none
  | _ => none

def loneBrace : Pattern := ⟨.code, findLoneBrace⟩

end LineLint.Pattern
