import LineLint.Decimal.Shortest
import LineLint.Text.Quoted

/- Values of settings, as a configuration file or a caller gives them. -/
namespace LineLint

structure Date where
  year : Nat
  month : Nat
  day : Nat
  deriving DecidableEq, Repr

structure TimeOfDay where
  hour : Nat
  minute : Nat
  second : Nat
  microsecond : Nat
  deriving DecidableEq, Repr

inductive Value where
  | null
  | bool (b : Bool)
  | integer (n : Int)
  | real (x : Float)
  | text (s : String)
  | list (items : List Value)
  | table (fields : List (String × Value))
  | date (d : Date)
  | time (t : TimeOfDay)
  /-- With the minutes that the clock is ahead of universal time, if they are given. -/
  | dateTime (d : Date) (t : TimeOfDay) (ahead : Option Int)
  deriving Repr

namespace Value

def mostDigits : Nat := 4300

def isLong (n : Int) : Bool := Decimal.powerOfTen mostDigits ≤ n.natAbs

mutual

/-- The parts of a value in the order in which they are written, each with its depth. The names in a
    table are parts as well. -/
def parts (depth : Nat) : Value → List (Nat × Value)
  | .list items => (depth, .list items) :: itemParts (depth + 1) items
  | .table fields => (depth, .table fields) :: fieldParts (depth + 1) fields
  | value => [(depth, value)]

def itemParts (depth : Nat) : List Value → List (Nat × Value)
  | [] => []
  | item :: items => parts depth item ++ itemParts depth items

def fieldParts (depth : Nat) : List (String × Value) → List (Nat × Value)
  | [] => []
  | (name, value) :: fields =>
      (depth, .text name) :: parts depth value ++ fieldParts depth fields

end

def kind : Value → String
  | .null => "NoneType"
  | .bool _ => "bool"
  | .integer _ => "int"
  | .real _ => "float"
  | .text _ => "str"
  | .list _ => "list"
  | .table _ => "dict"
  | .date _ => "datetime.date"
  | .time _ => "datetime.time"
  | .dateTime _ _ _ => "datetime.datetime"

def commaSeparated (items : List String) : String := ", ".intercalate items

def dateParts (d : Date) : List Nat := [d.year, d.month, d.day]

def timeParts (t : TimeOfDay) : List Nat :=
  [t.hour, t.minute] ++
    (if t.microsecond ≠ 0 then [t.second, t.microsecond]
     else if t.second ≠ 0 then [t.second] else [])

/-- A zone is written by its distance from universal time, in days and seconds; the seconds are not
    negative. -/
def zoneText (ahead : Int) : String :=
  if ahead = 0 then "datetime.timezone.utc"
  else
    let distance := if ahead < 0 then "days=-1, seconds=" ++ toString (86400 + 60 * ahead)
      else "seconds=" ++ toString (60 * ahead)
    "datetime.timezone(datetime.timedelta(" ++ distance ++ "))"

def call (name : String) (arguments : List String) : String :=
  name ++ "(" ++ commaSeparated arguments ++ ")"

mutual

def describe : Value → String
  | .null => "None"
  | .bool true => "True"
  | .bool false => "False"
  | .integer n => toString n
  | .real x => Decimal.shortestText x
  | .text s => Text.quoted s
  | .list items => "[" ++ commaSeparated (describeItems items) ++ "]"
  | .table fields => "\x7b" ++ commaSeparated (describeFields fields) ++ "\x7d"
  | .date d => call "datetime.date" ((dateParts d).map toString)
  | .time t => call "datetime.time" ((timeParts t).map toString)
  | .dateTime d t ahead =>
      let zone := match ahead with
        | none => []
        | some ahead => ["tzinfo=" ++ zoneText ahead]
      call "datetime.datetime" ((dateParts d ++ timeParts t).map toString ++ zone)

def describeItems : List Value → List String
  | [] => []
  | item :: items => describe item :: describeItems items

def describeFields : List (String × Value) → List String
  | [] => []
  | (name, value) :: fields =>
      (Text.quoted name ++ ": " ++ describe value) :: describeFields fields

end

def text? : Value → Option String
  | .text s => some s
  | _ => none

def texts? : Value → Option (List String)
  | .list items => items.mapM text?
  | _ => none

end Value

end LineLint
