import LineLint.Decimal.Shortest

/- Integers and floating-point numbers in one order, without any rounding. -/
namespace LineLint.Decimal

/-- Where a number stands: beyond all finite ones, at a multiple of the least positive
    floating-point number, or nowhere. -/
inductive Place where
  | nowhere
  | below
  | finite (units : Int)
  | above
  deriving DecidableEq, Repr

namespace Place

def unitExponent : Nat := 1074

def ofInt (n : Int) : Place := .finite (n * powerOfTwo unitExponent)

def ofFloat (x : Float) : Place :=
  let bits := x.toBits.toNat
  let magnitude := bits % powerOfTwo 63
  let negative := bits != magnitude
  if 2047 * powerOfTwo 52 < magnitude then .nowhere
  else if magnitude = 2047 * powerOfTwo 52 then if negative then .below else .above
  else
    let b := Binary.ofBits magnitude
    let units : Int := b.mantissa * powerOfTwo (b.exponent + unitExponent).toNat
    .finite (if negative then -units else units)

def precedes : Place → Place → Bool
  | .finite m, .finite n => m < n
  | .below, .finite _ => true
  | .below, .above => true
  | .finite _, .above => true
  | _, _ => false

end Place

end LineLint.Decimal
