import LineLint.Config.Value
import LineLint.Decimal
import LineLint.Json.Reader
import LineLint.Toml.Fault

/- Numbers, dates and times of a TOML document. -/
namespace LineLint.Toml

def moreDigits (isDigit : Char → Bool) : List Char → List Char × List Char
  | '_' :: c :: rest =>
      if isDigit c then
        let (digits, after) := moreDigits isDigit rest
        (c :: digits, after)
      else ([], '_' :: c :: rest)
  | c :: rest =>
      if isDigit c then
        let (digits, after) := moreDigits isDigit rest
        (c :: digits, after)
      else ([], c :: rest)
  | [] => ([], [])

def readDigits (isDigit : Char → Bool) : List Char → Option (List Char × List Char)
  | c :: rest =>
      if isDigit c then
        let (digits, after) := moreDigits isDigit rest
        some (c :: digits, after)
      else none
  | [] => none

def isHexDigit (c : Char) : Bool := (Json.hexValue? c).isSome

def valueIn (base : Nat) (digits : List Char) : Nat :=
  digits.foldl (fun n c => n * base + (Json.hexValue? c).getD 0) 0

def basedInteger (base : Nat) (isDigit : Char → Bool) (cs : List Char) :
    Option (Value × List Char) :=
  (readDigits isDigit cs).map fun (digits, rest) => (.integer (valueIn base digits), rest)

def readBased : List Char → Option (Value × List Char)
  | '0' :: 'x' :: rest => basedInteger 16 isHexDigit rest
  | '0' :: 'b' :: rest => basedInteger 2 (fun c => c == '0' || c == '1') rest
  | '0' :: 'o' :: rest => basedInteger 8 (fun c => c.isDigit && c != '8' && c != '9') rest
  | _ => none

def readWhole : List Char → Option (List Char × List Char)
  | '0' :: rest => some (['0'], rest)
  | cs => readDigits Char.isDigit cs

def readFraction (cs : List Char) : Option (List Char) × List Char :=
  match cs with
  | '.' :: rest =>
      match readDigits Char.isDigit rest with
      | some (digits, after) => (some digits, after)
      | none => (none, cs)
  | _ => (none, cs)

def readPower (cs : List Char) : Option Int × List Char :=
  match cs with
  | c :: rest =>
      if c = 'e' ∨ c = 'E' then
        let (negative, unsigned) := Json.readSign rest
        match readDigits Char.isDigit unsigned with
        | some (digits, after) => (some (Json.signed negative (digitsValue digits)), after)
        | none => (none, cs)
      else (none, cs)
  | [] => (none, cs)

def decimalInteger (negative : Bool) (digits : List Char) : Except Fault Value :=
  if Value.mostDigits < digits.length then .error (.longInteger digits.length)
  else .ok (.integer (Json.signed negative (digitsValue digits)))

def readDecimal (cs : List Char) : Option (Except Fault Value × List Char) := do
  let (negative, unsigned) := Json.readSign cs
  let (whole, rest) ← readWhole unsigned
  let (fraction, rest) := readFraction rest
  let (power, rest) := readPower rest
  if fraction.isNone && power.isNone then
    pure (decimalInteger negative whole, rest)
  else
    let decimal := Decimal.ofParts negative whole (fraction.getD []) (power.getD 0)
    pure (.ok (.real decimal.toFloat), rest)

def nan : Float := 0.0 / 0.0

def readSpecial : List Char → Option (Value × List Char)
  | 'i' :: 'n' :: 'f' :: rest => some (.real Decimal.infinity, rest)
  | 'n' :: 'a' :: 'n' :: rest => some (.real nan, rest)
  | '+' :: 'i' :: 'n' :: 'f' :: rest => some (.real Decimal.infinity, rest)
  | '+' :: 'n' :: 'a' :: 'n' :: rest => some (.real nan, rest)
  | '-' :: 'i' :: 'n' :: 'f' :: rest => some (.real (-Decimal.infinity), rest)
  | '-' :: 'n' :: 'a' :: 'n' :: rest => some (.real nan, rest)
  | _ => none

def readNumber (cs : List Char) : Except Fault (Value × List Char) :=
  match readBased cs, readDecimal cs with
  | some result, _ => .ok result
  | none, some (value, rest) => value.map fun value => (value, rest)
  | none, none => required (readSpecial cs)

def twoDigits (lo hi : Nat) : List Char → Option (Nat × List Char)
  | a :: b :: rest =>
      let n := digitsValue [a, b]
      if a.isDigit && b.isDigit && lo ≤ n && n ≤ hi then some (n, rest) else none
  | _ => none

def expect (c : Char) : List Char → Option (List Char)
  | first :: rest => if first = c then some rest else none
  | [] => none

def readMicroseconds (cs : List Char) : Nat × List Char :=
  match cs with
  | '.' :: rest =>
      let digits := rest.takeWhile Char.isDigit
      if digits.isEmpty then (0, cs)
      else
        let kept := digits.take 6
        (digitsValue kept * Decimal.powerOfTen (6 - kept.length), rest.dropWhile Char.isDigit)
  | _ => (0, cs)

def readTime (cs : List Char) : Option (TimeOfDay × List Char) := do
  let (hour, rest) ← twoDigits 0 23 cs
  let rest ← expect ':' rest
  let (minute, rest) ← twoDigits 0 59 rest
  let rest ← expect ':' rest
  let (second, rest) ← twoDigits 0 59 rest
  let (microsecond, rest) := readMicroseconds rest
  pure (⟨hour, minute, second, microsecond⟩, rest)

def readDistance (ahead : Bool) (cs : List Char) : Option (Int × List Char) := do
  let (hour, rest) ← twoDigits 0 23 cs
  let rest ← expect ':' rest
  let (minute, rest) ← twoDigits 0 59 rest
  pure (Json.signed (!ahead) (60 * hour + minute), rest)

def readZone (cs : List Char) : Option Int × List Char :=
  let zone := match cs with
    | 'Z' :: rest => some (0, rest)
    | 'z' :: rest => some (0, rest)
    | '+' :: rest => readDistance true rest
    | '-' :: rest => readDistance false rest
    | _ => none
  match zone with
  | some (minutes, rest) => (some minutes, rest)
  | none => (none, cs)

def readDate (cs : List Char) : Option (Date × List Char) := do
  let (century, rest) ← twoDigits 0 99 cs
  let (year, rest) ← twoDigits 0 99 rest
  let rest ← expect '-' rest
  let (month, rest) ← twoDigits 1 12 rest
  let rest ← expect '-' rest
  let (day, rest) ← twoDigits 1 31 rest
  pure (⟨100 * century + year, month, day⟩, rest)

def isLeap (year : Nat) : Bool := year % 4 = 0 && (year % 100 != 0 || year % 400 = 0)

def daysIn (year month : Nat) : Nat :=
  if month = 2 then if isLeap year then 29 else 28
  else if month = 4 ∨ month = 6 ∨ month = 9 ∨ month = 11 then 30
  else 31

def exists? (d : Date) : Bool := d.year != 0 && d.day ≤ daysIn d.year d.month

def readTimeAfter (cs : List Char) : Option (TimeOfDay × List Char) :=
  match cs with
  | c :: rest => if c = 'T' ∨ c = 't' ∨ c = ' ' then readTime rest else none
  | [] => none

def readDateTime (d : Date) (rest : List Char) : Option (Value × List Char) :=
  if !exists? d then none
  else
    match readTimeAfter rest with
    | none => some (.date d, rest)
    | some (t, rest) =>
        let (ahead, rest) := readZone rest
        some (.dateTime d t ahead, rest)

def readScalar (cs : List Char) : Except Fault (Value × List Char) :=
  match readDate cs with
  | some (d, rest) => required (readDateTime d rest)
  | none =>
      match readTime cs with
      | some (t, rest) => .ok (.time t, rest)
      | none => readNumber cs

end LineLint.Toml
