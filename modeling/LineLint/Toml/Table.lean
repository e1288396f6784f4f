import LineLint.Config.Value
import LineLint.Toml.Lexeme

/- Tables under construction: fields in the order in which they appear, reached by keys. -/
namespace LineLint.Toml

abbrev Fields := List (String × Value)

def replaceField (name : String) (value : Value) : Fields → Fields
  | [] => []
  | (other, old) :: rest =>
      if other = name then (name, value) :: rest else (other, old) :: replaceField name value rest

def innerTable? (throughLists : Bool) : Value → Option Fields
  | .table inner => some inner
  | .list items =>
      if throughLists then
        match items.getLast? with
        | some (.table inner) => some inner
        | _ => none
      else none
  | _ => none

def withInner (inner : Fields) : Value → Value
  | .list items => .list (items.dropLast ++ [.table inner])
  | _ => .table inner

/-- Changes the table that a key leads to. Tables on the way are made if they are missing; any other
    value in the way is a fault. -/
def updateAt (throughLists : Bool) (change : Fields → Option Fields) :
    Key → Fields → Option Fields
  | [], fields => change fields
  | name :: key, fields =>
      match fields.lookup name with
      | none =>
          (updateAt throughLists change key []).map fun inner => fields ++ [(name, .table inner)]
      | some value =>
          match innerTable? throughLists value with
          | none => none
          | some inner =>
              (updateAt throughLists change key inner).map fun inner =>
                replaceField name (withInner inner value) fields

def addField (name : String) (value : Value) (fields : Fields) : Option Fields :=
  if (fields.lookup name).isSome then none else some (fields ++ [(name, value)])

def addTable (name : String) (fields : Fields) : Option Fields :=
  match fields.lookup name with
  | none => some (fields ++ [(name, .list [.table []])])
  | some (.list items) => some (replaceField name (.list (items ++ [.table []])) fields)
  | some _ => none

def splitLast? (key : Key) : Option (Key × String) :=
  key.getLast?.map fun last => (key.dropLast, last)

def extends? (key first : Key) : Bool := key.take first.length == first

def isClosed : Value → Bool
  | .table _ => true
  | .list _ => true
  | _ => false

end LineLint.Toml
