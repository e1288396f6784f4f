import LineLint.Matcher.Basic
import LineLint.Text.Search

/- Spaces and tabs at the two ends of a raw line. -/
namespace LineLint
open LineLint.Text

def spaceBeforeTab : Matcher := fun line =>
  let (tabs, rest) := span (· != ' ') line.indent
  .ok (if rest.contains '\t' then some ⟨some (tabs.length + 1), []⟩ else none)

namespace Pattern

def finalBlanks (cs : List Char) : List Char := (cs.reverse.takeWhile isSpaceOrTab).reverse

def findTrailing (cs : List Char) : Option Found :=
  let body := withoutFinalNewline cs
  let blanks := finalBlanks body
  if blanks.isEmpty then none
  else
    let position := body.length - blanks.length
    some ⟨position, .part (some position), []⟩

def trailingBlanks : Pattern := ⟨.text, findTrailing⟩

end Pattern

end LineLint
