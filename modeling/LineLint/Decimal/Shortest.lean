import LineLint.Decimal

/- The shortest decimal text of a binary floating-point number: of all decimals that read back as
   the number, the ones with the fewest digits, and of these the nearest. -/
namespace LineLint.Decimal

/-- A positive number `mantissa * 2 ^ exponent` and the reals that round to it. They reach half a
    unit of the mantissa to each side, or a quarter below where the unit halves (`narrow`), and
    hold their two ends if the mantissa is even. -/
structure Binary where
  mantissa : Nat
  exponent : Int
  narrow : Bool
  deriving DecidableEq, Repr

def Binary.ofBits (bits : Nat) : Binary :=
  let power : Nat := bits / powerOfTwo 52 % powerOfTwo 11
  let fraction : Nat := bits % powerOfTwo 52
  if power = 0 then ⟨fraction, -1074, false⟩
  else ⟨powerOfTwo 52 + fraction, (power : Int) - 1075, fraction = 0 && 1 < power⟩

def scaled (n : Nat) (two ten : Int) : Nat × Nat :=
  (n * powerOfTwo two.toNat * powerOfTen ten.toNat,
    powerOfTwo (-two).toNat * powerOfTen (-ten).toNat)

def Binary.below (b : Binary) : Nat := 4 * b.mantissa - (if b.narrow then 1 else 2)

def Binary.above (b : Binary) : Nat := 4 * b.mantissa + 2

/-- `candidate * 10 ^ grid` rounds to the number. -/
def Binary.reads (b : Binary) (grid : Int) (candidate : Nat) : Bool :=
  let (low, den) := scaled b.below b.exponent (-grid)
  let (high, _) := scaled b.above b.exponent (-grid)
  let point := 4 * candidate * den
  if b.mantissa % 2 = 0 then low ≤ point && point ≤ high else low < point && point < high

/-- Of the two neighbours of the number on a grid of powers of ten, the one that reads back as it;
    of two the nearer, and of two equally near the even one. -/
def Binary.onGrid (b : Binary) (grid : Int) : Option Nat :=
  let (num, den) := scaled b.mantissa b.exponent (-grid)
  let under := num / den
  match b.reads grid under, b.reads grid (under + 1) with
  | false, false => none
  | true, false => some under
  | false, true => some (under + 1)
  | true, true =>
      let twice := 2 * (num % den)
      if twice < den ∨ twice = den ∧ under % 2 = 0 then some under else some (under + 1)

def Binary.leading (b : Binary) : Int :=
  -- Every positive number is above `10 ^ -400`.
  let (num, den) := scaled b.mantissa b.exponent 400
  ((Nat.toDigits 10 (num / den)).length : Int) - 401

def Binary.shortest (b : Binary) : Nat × Int :=
  -- Seventeen digits always suffice.
  ((List.range 17).findSome? fun (n : Nat) =>
      let grid := b.leading - n
      (b.onGrid grid).map fun digits => (digits, grid)).getD (0, 0)

def withoutFinalZeros (cs : List Char) : List Char :=
  (cs.reverse.dropWhile (· == '0')).reverse

def zeros (n : Nat) : List Char := List.replicate n '0'

def positional (digits : List Char) (point : Int) : List Char :=
  if point ≤ 0 then '0' :: '.' :: (zeros (-point).toNat ++ digits)
  else
    let whole := digits.take point.toNat
    let fraction := digits.drop point.toNat
    whole ++ zeros (point.toNat - digits.length) ++ '.' ::
      (if fraction.isEmpty then ['0'] else fraction)

def signedExponent (power : Int) : List Char :=
  let digits := Nat.toDigits 10 power.natAbs
  'e' :: (if power < 0 then '-' else '+') :: (zeros (2 - digits.length) ++ digits)

def scientific (digits : List Char) (power : Int) : List Char :=
  match digits with
  | [] => signedExponent power
  | [d] => d :: signedExponent power
  | d :: fraction => d :: '.' :: (fraction ++ signedExponent power)

def layout (digits : List Char) (point : Int) : List Char :=
  if -4 < point ∧ point ≤ 16 then positional digits point else scientific digits (point - 1)

def shortestText (x : Float) : String :=
  let bits := x.toBits.toNat
  let magnitude := bits % powerOfTwo 63
  let sign := if bits = magnitude then [] else ['-']
  if 2047 * powerOfTwo 52 < magnitude then "nan"
  else if magnitude = 2047 * powerOfTwo 52 then String.ofList (sign ++ ['i', 'n', 'f'])
  else if magnitude = 0 then String.ofList (sign ++ ['0', '.', '0'])
  else
    let (digits, grid) := (Binary.ofBits magnitude).shortest
    let written := Nat.toDigits 10 digits
    String.ofList (sign ++ layout (withoutFinalZeros written) (written.length + grid))

end LineLint.Decimal
