import LineLint.Template.Attribute
import LineLint.Template.Basic
import LineLint.Template.Format
import LineLint.Template.Item

/- Filling a template with values by name. A name without a value stands for the empty text. -/
namespace LineLint.Template

abbrev Values := List (String × String)

def Values.get (values : Values) (name : List Char) : List Char :=
  ((values.lookup (String.ofList name)).getD "").toList

/-- What a step into a value is given by: the name of an attribute or an index. -/
inductive Access where
  | attribute (name : List Char)
  | item (index : List Char)
  deriving DecidableEq, Repr

def isStep (c : Char) : Bool := c == '.' || c == '['

/-- The number that a text of decimal digits stands for. Digits are read from the left, and too
    many of them are a fault even if something else follows. -/
def wholeNumber? (cs : List Char) : Except Fault (Option Nat) :=
  match readNumber cs with
  | .error fault => .error fault
  | .ok (n, []) => .ok n
  | .ok (_, _ :: _) => .ok none

def readAccess : List Char → Except Fault (Access × List Char)
  | '.' :: rest =>
      .ok (.attribute (rest.takeWhile fun c => !isStep c), rest.dropWhile fun c => !isStep c)
  | '[' :: rest =>
      match rest.dropWhile (· != ']') with
      | _ :: after => .ok (.item (rest.takeWhile (· != ']')), after)
      | [] => .error .missingBracket
  | _ => .error .badFollower

def access (o : Object) : Access → Except Fault Object
  | .attribute name => if name.isEmpty then .error .emptyStep else o.attribute name
  | .item index =>
      match wholeNumber? index with
      | .error fault => .error fault
      | .ok none => if index.isEmpty then .error .emptyStep else o.itemNamed index
      | .ok (some n) => o.itemAt n

def follow : Nat → Object → List Char → Except Fault Object
  | 0, o, _ => .ok o
  | _, o, [] => .ok o
  | fuel + 1, o, steps =>
      match readAccess steps with
      | .error fault => .error fault
      | .ok (a, rest) =>
          match access o a with
          | .error fault => .error fault
          | .ok o => follow fuel o rest

def resolve (values : Values) (name : List Char) : Except Fault Object :=
  let first := name.takeWhile fun c => !isStep c
  let steps := name.dropWhile fun c => !isStep c
  match wholeNumber? first with
  | .error fault => .error fault
  | .ok (some _) => .error .positional
  | .ok none =>
      if first.isEmpty then .error .positional
      else follow steps.length (.text (values.get first)) steps

def convert (o : Object) : Option Char → Except Fault Object
  | none => .ok o
  | some '\x00' => .ok o
  | some 's' => .ok (.text o.plain)
  | some 'r' => .ok (.ofString (o.quoted Text.isPrintable))
  | some 'a' => .ok (.ofString (o.quoted Text.isAsciiPrintable))
  | some c => .error (.unknownConversion c)

def fillField (nested : List Char → Except Fault (List Char)) (values : Values) (f : Field) :
    Except Fault (List Char) := do
  let found ← resolve values f.name
  let shown ← convert found f.conversion
  let spec ← if f.spec.contains '{' then nested f.spec else pure f.spec
  formatted spec shown

def fillPieces (nested : List Char → Except Fault (List Char)) (values : Values) :
    List Piece → Except Fault (List Char)
  | [] => .ok []
  | .plain c :: rest => (fillPieces nested values rest).map (c :: ·)
  | .field f :: rest => do
      let shown ← fillField nested values f
      let after ← fillPieces nested values rest
      pure (shown ++ after)

/-- Fills a template in which templates may be nested to a given depth. Faults come to light from
    left to right, so a fault of the template itself is the last. -/
def fillTo : Nat → Values → List Char → Except Fault (List Char)
  | 0, _, _ => .error .tooDeep
  | depth + 1, values, cs => do
      let (pieces, fault) := pieces cs
      let shown ← fillPieces (fillTo depth values) values pieces
      match fault with
      | some fault => .error fault
      | none => .ok shown

/-- A format may hold fields, but a format inside a format may not. -/
def fill (values : Values) (template : String) : Except Fault String :=
  (fillTo 2 values template.toList).map String.ofList

end LineLint.Template
