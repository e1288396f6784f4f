/- Decimal numbers as they are written: digits without a point, and the power of ten they count. -/
namespace LineLint

/-- The number `digits * 10 ^ exponent`, negated if `negative`. Zero has both signs. -/
structure Decimal where
  negative : Bool
  digits : Nat
  exponent : Int
  deriving DecidableEq, Repr

namespace Decimal

def powerOfTwo (n : Nat) : Nat := Nat.pow 2 n

def powerOfTen (n : Nat) : Nat := Nat.pow 10 n

def leading (d : Decimal) : Int := (Nat.toDigits 10 d.digits).length + d.exponent

def infinity : Float := 1.0 / 0.0

/-- The nearest binary number. Beyond the range of its exponents that is infinity or zero, which
    is settled before any power of ten is taken. -/
def magnitude (d : Decimal) : Float :=
  if d.digits = 0 ∨ d.leading < -330 then 0.0
  else if 310 < d.leading then infinity
  else if 0 ≤ d.exponent then Float.ofScientific d.digits false d.exponent.toNat
  else Float.ofScientific d.digits true (-d.exponent).toNat

def toFloat (d : Decimal) : Float := if d.negative then -d.magnitude else d.magnitude

end Decimal

def digitsValue (cs : List Char) : Nat := Nat.ofDigitChars 10 cs 0

def Decimal.ofParts (negative : Bool) (whole fraction : List Char) (power : Int) : Decimal :=
  ⟨negative, digitsValue (whole ++ fraction), power - fraction.length⟩

end LineLint
