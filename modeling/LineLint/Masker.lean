import LineLint.Line

/- Masking. What stands inside a string, a text block or a comment is replaced by spaces, character
   for character, so that a column of the masked line is a column of the raw one. Delimiters stay.
   The masker carries from line to line which constructs are open. -/
namespace LineLint

/-- An open construct. -/
inductive Construct where
  | string
  | textBlock
  | comment
  | interpolation
  deriving DecidableEq, Repr

/-- The open constructs, innermost first; the parentheses open in each open interpolation, its own
    included, innermost first; and how deep block comments are nested. The depth is read only inside
    a comment, and opening one sets it. -/
structure Masker where
  stack : List Construct
  parens : List Int
  commentDepth : Int
  deriving DecidableEq, Repr

/-- What a step asked for and did not find: an open construct, or a count of parentheses. -/
inductive MaskFault where
  | noConstruct
  | noCount
  deriving DecidableEq, Repr

def MaskFault.message : MaskFault → String
  | .noConstruct => "pop from empty list"
  | .noCount => "list index out of range"

/-- What one step did: the characters that stand for those it took, the characters left, and the
    masker after it. -/
structure MaskStep where
  shown : List Char
  rest : List Char
  after : Masker
  deriving DecidableEq, Repr

namespace Masker

def start : Masker := ⟨[], [], 0⟩

def push (m : Masker) (c : Construct) : Masker := { m with stack := c :: m.stack }

def pop (m : Masker) : Except MaskFault Masker :=
  match m.stack with
  | [] => .error .noConstruct
  | _ :: outer => .ok { m with stack := outer }

def count (m : Masker) (change : Int) : Except MaskFault (Int × Masker) :=
  match m.parens with
  | [] => .error .noCount
  | n :: outer => .ok (n + change, { m with parens := (n + change) :: outer })

def dropCount (m : Masker) : Except MaskFault Masker :=
  match m.parens with
  | [] => .error .noCount
  | _ :: outer => .ok { m with parens := outer }

def blanks (cs : List Char) : List Char := cs.map fun _ => ' '

def change (c : Char) : Int := if c = '(' then 1 else -1

/-- A parenthesis in the body of an interpolation. The one after which none is open closes the
    interpolation; it belongs to the literal around it and is blanked. -/
def countParen (m : Masker) (c : Char) (rest : List Char) : Except MaskFault MaskStep :=
  match m.count (change c) with
  | .error fault => .error fault
  | .ok (n, counted) =>
      if n = 0 then
        match counted.dropCount.bind pop with
        | .error fault => .error fault
        | .ok closed => .ok ⟨[' '], rest, closed⟩
      else .ok ⟨[c], rest, counted⟩

def paren (m : Masker) (c : Char) (rest : List Char) : Except MaskFault MaskStep :=
  match m.stack with
  | .interpolation :: _ => m.countParen c rest
  | _ => .ok ⟨[c], rest, m⟩

def codeStep (m : Masker) : Char → List Char → Except MaskFault MaskStep
  | '/', '/' :: rest => .ok ⟨'/' :: '/' :: blanks rest, [], m⟩
  | '/', '*' :: rest => .ok ⟨['/', '*'], rest, { m.push .comment with commentDepth := 1 }⟩
  | '"', '"' :: '"' :: rest => .ok ⟨['"', '"', '"'], rest, m.push .textBlock⟩
  | '"', rest => .ok ⟨['"'], rest, m.push .string⟩
  | '(', rest => m.paren '(' rest
  | ')', rest => m.paren ')' rest
  | c, rest => .ok ⟨[c], rest, m⟩

def closeComment (m : Masker) (rest : List Char) : Except MaskFault MaskStep :=
  let left := { m with commentDepth := m.commentDepth - 1 }
  if left.commentDepth = 0 then left.pop.map fun closed => ⟨['*', '/'], rest, closed⟩
  else .ok ⟨[' ', ' '], rest, left⟩

def commentStep (m : Masker) : Char → List Char → Except MaskFault MaskStep
  | '/', '*' :: rest => .ok ⟨[' ', ' '], rest, { m with commentDepth := m.commentDepth + 1 }⟩
  | '*', '/' :: rest => m.closeComment rest
  | _, rest => .ok ⟨[' '], rest, m⟩

def closing? (literal : Construct) : Char → List Char → Option (List Char × List Char)
  | '"', rest =>
      match literal, rest with
      | .string, _ => some (['"'], rest)
      | .textBlock, '"' :: '"' :: more => some (['"', '"', '"'], more)
      | _, _ => none
  | _, _ => none

def openInterpolation (m : Masker) : Masker :=
  { m with stack := .interpolation :: m.stack, parens := 1 :: m.parens }

/-- A step in a string or a text block. A backslash before any character but an opening parenthesis
    escapes that character. -/
def literalStep (m : Masker) (literal : Construct) : Char → List Char → Except MaskFault MaskStep
  | '\\', '(' :: rest => .ok ⟨[' ', ' '], rest, m.openInterpolation⟩
  | '\\', _ :: rest => .ok ⟨[' ', ' '], rest, m⟩
  | c, rest =>
      match closing? literal c rest with
      | some (quotes, more) => m.pop.map fun closed => ⟨quotes, more, closed⟩
      | none => .ok ⟨[' '], rest, m⟩

def step (m : Masker) (c : Char) (cs : List Char) : Except MaskFault MaskStep :=
  match m.stack with
  | .comment :: _ => m.commentStep c cs
  | .string :: _ => m.literalStep .string c cs
  | .textBlock :: _ => m.literalStep .textBlock c cs
  | _ => m.codeStep c cs

end Masker

end LineLint
