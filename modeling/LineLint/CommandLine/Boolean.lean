import LineLint.Text.Blank
import LineLint.Text.Order

/- Words that say yes or no. -/
namespace LineLint.CommandLine

def yesWords : List String := ["1", "on", "t", "true", "y", "yes"]

def noWords : List String := ["", "0", "f", "false", "n", "no", "off"]

def booleanWords : List String := Text.sortedNames (yesWords ++ noWords)

/-- The meaning of a text, whatever its case and the white space around it. -/
def booleanOf? (s : String) : Option Bool :=
  let word := String.ofList ((Text.strip s.toList).map Char.toLower)
  if yesWords.contains word then some true
  else if noWords.contains word then some false
  else none

end LineLint.CommandLine
