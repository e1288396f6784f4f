import LineLint.Decimal
import LineLint.Template.Fault
import LineLint.Text.DecimalDigit

/- Formats of a field: fill and alignment, sign and other flags that numbers have, width,
   separators, precision and type. A text takes a fill, an alignment, a width and a precision. -/
namespace LineLint.Template

structure Spec where
  fill : Char
  align : Char
  sign : Option Char
  zeroCoercion : Bool
  alternate : Bool
  width : Option Nat
  separator : Option Char
  precision : Option Nat
  type : Char
  deriving DecidableEq, Repr

def isAlignment (c : Char) : Bool := c == '<' || c == '>' || c == '=' || c == '^'

def isSign (c : Char) : Bool := c == ' ' || c == '+' || c == '-'

def largestNumber : Nat := Nat.pow 2 63 - 1

def readDigits (number : Nat) : List Char → Except Fault (Nat × List Char)
  | [] => .ok (number, [])
  | c :: rest =>
      match Text.decimalDigit? c with
      | none => .ok (number, c :: rest)
      | some digit =>
          if (largestNumber - digit) / 10 < number then .error .tooManyDigits
          else readDigits (number * 10 + digit) rest

def readNumber (cs : List Char) : Except Fault (Option Nat × List Char) :=
  match cs with
  | [] => .ok (none, [])
  | c :: _ =>
      if (Text.decimalDigit? c).isNone then .ok (none, cs)
      else (readDigits 0 cs).map fun (n, rest) => (some n, rest)

def readAlignment : List Char → Option Char × Option Char × List Char
  | fill :: align :: rest =>
      if isAlignment align then (some fill, some align, rest)
      else if isAlignment fill then (none, some fill, align :: rest)
      else (none, none, fill :: align :: rest)
  | [align] => if isAlignment align then (none, some align, []) else (none, none, [align])
  | [] => (none, none, [])

def readFlag (flag : Char) : List Char → Bool × List Char
  | [] => (false, [])
  | c :: rest => if c = flag then (true, rest) else (false, c :: rest)

def readSign : List Char → Option Char × List Char
  | [] => (none, [])
  | c :: rest => if isSign c then (some c, rest) else (none, c :: rest)

def readSeparator : List Char → Except Fault (Option Char × List Char)
  | ',' :: '_' :: _ => .error .bothSeparators
  | '_' :: ',' :: _ => .error .bothSeparators
  | ',' :: rest => .ok (some ',', rest)
  | '_' :: rest => .ok (some '_', rest)
  | rest => .ok (none, rest)

def readPrecision : List Char → Except Fault (Option Nat × List Char)
  | '.' :: rest =>
      match readNumber rest with
      | .error fault => .error fault
      | .ok (none, _) => .error .missingPrecision
      | .ok (some n, rest) => .ok (some n, rest)
  | rest => .ok (none, rest)

def usualType (k : Kind) : Char := if k = .text then 's' else 'd'

def usualAlign (k : Kind) : Char := if k = .text then '<' else '>'

def readType (k : Kind) (spec : List Char) : List Char → Except Fault Char
  | [] => .ok (usualType k)
  | [type] => .ok type
  | _ => .error (.invalidSpec spec k)

def allowsSeparator (separator type : Char) : Bool :=
  "defgEG%F".toList.contains type || type.toNat = 0 ||
    separator = '_' && "boxX".toList.contains type

/-- The alignment of a format that names none. A zero in front of the width goes between the sign
    of a number and its digits. -/
def impliedAlign (k : Kind) (padded : Bool) : Char :=
  if padded && k != .text then '=' else usualAlign k

def Spec.read (k : Kind) (cs : List Char) : Except Fault Spec := do
  let (fill, align, rest) := readAlignment cs
  let (sign, rest) := readSign rest
  let (zeroCoercion, rest) := readFlag 'z' rest
  let (alternate, rest) := readFlag '#' rest
  let (padded, rest) := if fill.isNone then readFlag '0' rest else (false, rest)
  let (width, rest) ← readNumber rest
  let (separator, rest) ← readSeparator rest
  let (precision, rest) ← readPrecision rest
  let type ← readType k cs rest
  match separator with
  | some mark => if !allowsSeparator mark type then throw (.separatorWith mark type)
  | none => pure ()
  pure
    { fill := fill.getD (if padded then '0' else ' ')
      align := align.getD (impliedAlign k padded)
      sign, zeroCoercion, alternate, width, separator, precision, type }

def Spec.textFault? (spec : Spec) : Option Fault :=
  if spec.type ≠ 's' then some (.unknownType spec.type .text)
  else if spec.sign = some ' ' then some .spaceNotAllowed
  else if spec.sign.isSome then some .signNotAllowed
  else if spec.zeroCoercion then some .zeroNotAllowed
  else if spec.alternate then some .alternateNotAllowed
  else if spec.align = '=' then some .equalsNotAllowed
  else none

def widest : Nat := Decimal.powerOfTen 9

def Spec.missing (spec : Spec) (length : Nat) : Except Fault Nat :=
  let width := spec.width.getD 0
  if widest < width then .error .tooWide else .ok (width - length)

def pad (fill align : Char) (count : Nat) (cs : List Char) : List Char :=
  let left := if align = '>' then count else if align = '^' then count / 2 else 0
  List.replicate left fill ++ cs ++ List.replicate (count - left) fill

def Spec.applyToText (spec : Spec) (cs : List Char) : Except Fault (List Char) :=
  match spec.textFault? with
  | some fault => .error fault
  | none =>
      let cut := match spec.precision with
        | some n => cs.take n
        | none => cs
      (spec.missing cut.length).map fun count => pad spec.fill spec.align count cut

end LineLint.Template
