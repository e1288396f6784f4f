import LineLint.Decimal

/- Values of the data format that reports are written in. A number with a point or an exponent is
   kept apart from an integer, and the fields of an object keep their order. -/
namespace LineLint

inductive Json where
  | null
  | bool (b : Bool)
  | integer (n : Int)
  | decimal (d : Decimal)
  | text (s : String)
  | array (items : List Json)
  | object (fields : List (String × Json))
  deriving Repr

namespace Json

def ofNat (n : Nat) : Json := .integer n

def ofOption {α : Type} (toJson : α → Json) : Option α → Json
  | none => .null
  | some a => toJson a

def field? (name : String) : Json → Option Json
  | .object fields => fields.foldl (fun found f => if f.1 = name then some f.2 else found) none
  | _ => none

end Json

end LineLint
