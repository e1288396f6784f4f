import LineLint.Decimal.Shortest
import LineLint.Template.Spec

/- The layout of whole numbers: a sign, the mark of a base, digits in groups, and what follows them,
   which is a fraction or an exponent where the number is written as a decimal. -/
namespace LineLint.Template

/-- A number in parts. The mark of a base is written only if the format asks for it. -/
structure Numeral where
  negative : Bool
  mark : List Char
  digits : List Char
  rest : List Char
  deriving DecidableEq, Repr

def Spec.signText (spec : Spec) (negative : Bool) : List Char :=
  if negative then ['-']
  else
    match spec.sign with
    | some '+' => ['+']
    | some ' ' => [' ']
    | _ => []

def grouped (separator : Char) (size : Nat) : Nat → List Char → List Char
  | _, [] => []
  | 0, d :: rest => separator :: d :: grouped separator size (size - 1) rest
  | room + 1, d :: rest => d :: grouped separator size room rest

def groupSize (type : Char) : Nat := if "boxX".toList.contains type then 4 else 3

def digitsFor (size width : Nat) : Nat := width - (width - 1) / (size + 1)

def Spec.digitsText (spec : Spec) (width : Nat) (digits : List Char) : List Char :=
  match spec.separator with
  | none => List.replicate (width - digits.length) '0' ++ digits
  | some separator =>
      let size := groupSize spec.type
      let zeros := List.replicate (digitsFor size width - digits.length) '0'
      (grouped separator size size (zeros ++ digits).reverse).reverse

def Spec.place (spec : Spec) (n : Numeral) : Except Fault (List Char) :=
  let front := spec.signText n.negative ++ n.mark
  let inner := front.length + n.rest.length
  let width := spec.width.getD 0
  if widest < width then .error .tooWide
  else
    let filled := if spec.fill = '0' ∧ spec.align = '=' then width - inner else 0
    let digits := if n.digits.isEmpty then [] else spec.digitsText filled n.digits
    let count := width - (inner + digits.length)
    if spec.align = '=' then
      .ok (front ++ List.replicate count spec.fill ++ digits ++ n.rest)
    else .ok (pad spec.fill spec.align count (front ++ digits ++ n.rest))

def upper (cs : List Char) : List Char := cs.map Char.toUpper

def basedDigits (type : Char) (n : Nat) : List Char × List Char :=
  if type = 'b' then (['0', 'b'], Nat.toDigits 2 n)
  else if type = 'o' then (['0', 'o'], Nat.toDigits 8 n)
  else if type = 'x' then (['0', 'x'], Nat.toDigits 16 n)
  else if type = 'X' then (['0', 'X'], upper (Nat.toDigits 16 n))
  else ([], Nat.toDigits 10 n)

def Spec.integerFault? (spec : Spec) : Option Fault :=
  if spec.precision.isSome then some .precisionOfInteger
  else if spec.zeroCoercion then some .zeroOfInteger
  else if spec.type = 'c' ∧ spec.sign.isSome then some .signOfCharacter
  else if spec.type = 'c' ∧ spec.alternate then some .alternateOfCharacter
  else none

def Spec.integerNumeral (spec : Spec) (n : Int) : Except Fault Numeral :=
  if spec.type = 'c' then
    if n < 0 ∨ 0x110000 ≤ n then .error .characterRange
    else .ok ⟨false, [], [], [Char.ofNat n.toNat]⟩
  else
    let (mark, digits) := basedDigits spec.type n.natAbs
    .ok ⟨n < 0, if spec.alternate then mark else [], digits, []⟩

def roundedTo (n power : Nat) : Nat :=
  let unit := Decimal.powerOfTen power
  let twice := 2 * (n % unit)
  if twice < unit ∨ twice = unit ∧ n / unit % 2 = 0 then n / unit else n / unit + 1

/-- The first `count` significant digits of a number, rounded, and the power of ten of the first of
    them. Zeros fill them up. -/
def significant (count n : Nat) : List Char × Nat :=
  let all := Nat.toDigits 10 n
  if all.length ≤ count then (all ++ Decimal.zeros (count - all.length), all.length - 1)
  else
    let digits := Nat.toDigits 10 (roundedTo n (all.length - count))
    if digits.length = count then (digits, all.length - 1)
    else (digits.take count, all.length)

def fractionText (alternate : Bool) (fraction : List Char) : List Char :=
  if fraction.isEmpty && !alternate then [] else '.' :: fraction

def withFixedPoint (alternate : Bool) (precision n : Nat) : List Char × List Char :=
  (Nat.toDigits 10 n, fractionText alternate (Decimal.zeros precision))

def withExponent (alternate : Bool) (digits : List Char) (power : Nat) : List Char × List Char :=
  (digits.take 1, fractionText alternate (digits.drop 1) ++ Decimal.signedExponent power)

/-- The shorter of both forms for a number of significant digits. Zeros at the end of a fraction are
    left out unless the format asks for them. -/
def withGeneralForm (alternate : Bool) (precision n : Nat) : List Char × List Char :=
  let count := max precision 1
  let (digits, power) := significant count n
  let kept (cs : List Char) := if alternate then cs else Decimal.withoutFinalZeros cs
  if power < count then
    (digits.take (power + 1), fractionText alternate (kept (digits.drop (power + 1))))
  else withExponent alternate (digits.take 1 ++ kept (digits.drop 1)) power

def decimalParts (spec : Spec) (precision n : Nat) : List Char × List Char :=
  let type := spec.type.toLower
  if type = 'e' then
    let (digits, power) := significant (precision + 1) n
    withExponent spec.alternate digits power
  else if type = 'g' then withGeneralForm spec.alternate precision n
  else if type = '%' then
    let (digits, rest) := withFixedPoint spec.alternate precision (100 * n)
    (digits, rest ++ ['%'])
  else withFixedPoint spec.alternate precision n

def longestPrecision : Nat := Nat.pow 2 31 - 1

def Spec.decimalNumeral (spec : Spec) (n : Int) : Except Fault Numeral :=
  let precision := spec.precision.getD 6
  if longestPrecision < precision then .error .longPrecision
  else
    let (digits, rest) := decimalParts spec precision n.natAbs
    let rest := if spec.type.isUpper then upper rest else rest
    .ok ⟨n < 0, [], digits, rest⟩

def Spec.applyToInteger (spec : Spec) (k : Kind) (n : Int) : Except Fault (List Char) :=
  if "bcdoxXn".toList.contains spec.type then
    match spec.integerFault? with
    | some fault => .error fault
    | none => (spec.integerNumeral n).bind spec.place
  else if "eEfFgG%".toList.contains spec.type then (spec.decimalNumeral n).bind spec.place
  else .error (.unknownType spec.type k)

end LineLint.Template
