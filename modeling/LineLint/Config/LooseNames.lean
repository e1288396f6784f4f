import LineLint.Config.Settings
import LineLint.Decimal.Place

/- Settings that are no table. Their items count as names of settings; if none of these is unknown,
   the settings themselves are missed. -/
namespace LineLint.Config

def unhashable? (items : List Value) : Option UncheckedFault :=
  items.findSome? fun item =>
    match item with
    | .list _ => some (.unhashable item.kind)
    | .table _ => some (.unhashable item.kind)
    | _ => none

def place? : Value → Option Decimal.Place
  | .bool b => some (.ofInt (if b then 1 else 0))
  | .integer n => some (.ofInt n)
  | .real x => some (.ofFloat x)
  | _ => none

def unlike? (other name : Value) : Option UncheckedFault :=
  match other, name with
  | .dateTime _ _ ahead, .dateTime _ _ otherAhead =>
      if ahead.isSome == otherAhead.isSome then none else some .unlikeClocks
  | .date _, .dateTime _ _ _ => some .dateWithTime
  | .dateTime _ _ _, .date _ => some .dateWithTime
  | _, _ =>
      if (place? other).isSome && (place? name).isSome || other.kind == name.kind then none
      else some (.notOrdered other.kind name.kind)

def leastKind (kind : String) (least : Decimal.Place) : List (String × Decimal.Place) → String
  | [] => kind
  | (otherKind, other) :: rest =>
      if other.precedes least then leastKind otherKind other rest else leastKind kind least rest

def places? (items : List Value) : Option (List (String × Decimal.Place)) :=
  items.mapM fun item => (place? item).map fun place => (item.kind, place)

def oddNames (first : Value) (rest : List Value) : UncheckedFault :=
  match rest.findSome? fun other => unlike? other first with
  | some fault => fault
  | none =>
      match place? first, places? rest with
      | some least, some others => .notJoined (leastKind first.kind least others)
      | _, _ => .notJoined first.kind

def isKnownName : Value → Bool
  | .text name => knownKeys.contains name
  | _ => false

def faultOfItems (kind : String) (items : List Value) : ConfigFault :=
  match unhashable? items with
  | some fault => .unchecked fault
  | none =>
      let unknown := items.filter fun item => !isKnownName item
      match unknown, unknown.mapM Value.text? with
      | [], _ => .unchecked (.noFields kind)
      | first :: rest, none => .unchecked (oddNames first rest)
      | _, some names => .setting (.unknownKeys (unknownNames names))

def ofValue (limits : Limits) : Value → Except ConfigFault Config
  | .table settings => ofSettings limits settings
  | .text s =>
      .error (faultOfItems "str" (s.toList.map fun c => .text (String.singleton c)))
  | .list items => .error (faultOfItems "list" items)
  | value => .error (.unchecked (.notIterable value.kind))

end LineLint.Config
