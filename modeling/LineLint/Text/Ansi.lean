/- Terminal styles: a sequence of the escape character in front of a text, and one that resets the
   style after it. -/
namespace LineLint.Text

def escape : Char := Char.ofNat 0x1B

inductive Style where
  | red
  | yellow
  | green
  | bold
  deriving DecidableEq, Repr

def Style.code : Style → List Char
  | .red => ['3', '1']
  | .yellow => ['3', '3']
  | .green => ['3', '2']
  | .bold => ['1']

def styleSequence (code : List Char) : List Char := escape :: '[' :: (code ++ ['m'])

def styled (color : Bool) (style : Style) (text : String) : String :=
  if color then
    String.ofList (styleSequence style.code) ++ text ++ String.ofList (styleSequence ['0'])
  else text

def isSequenceParameter (c : Char) : Bool := c == ';' || c == '?' || c.isDigit

def startsSequence : List Char → Bool
  | a :: '[' :: rest => a == escape && (rest.dropWhile isSequenceParameter).head?.any Char.isAlpha
  | _ => false

def withoutSequences (inside : Bool) : List Char → List Char
  | [] => []
  | c :: rest =>
      if inside then withoutSequences (!c.isAlpha) rest
      else if startsSequence (c :: rest) then withoutSequences true rest
      else c :: withoutSequences false rest

def stripSequences (s : String) : String := String.ofList (withoutSequences false s.toList)

end LineLint.Text
