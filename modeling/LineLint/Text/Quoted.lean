import LineLint.Text.Printable

/- Quoted texts in messages. A text stands between single quotes, or between double quotes if it
   holds a single quote and no double one. The quote, the backslash and every character outside
   the shown class are escaped. -/
namespace LineLint.Text

def hexDigits (width n : Nat) : List Char :=
  let digits := Nat.toDigits 16 n
  List.replicate (width - digits.length) '0' ++ digits

def numericEscape (c : Char) : List Char :=
  if c.toNat < 0x100 then '\\' :: 'x' :: hexDigits 2 c.toNat
  else if c.toNat < 0x10000 then '\\' :: 'u' :: hexDigits 4 c.toNat
  else '\\' :: 'U' :: hexDigits 8 c.toNat

def quoteOf (cs : List Char) : Char :=
  if '\'' ∈ cs ∧ '"' ∉ cs then '"' else '\''

def escapeChar (shown : Char → Bool) (quote c : Char) : List Char :=
  if c = quote ∨ c = '\\' then ['\\', c]
  else if c = '\n' then ['\\', 'n']
  else if c = '\r' then ['\\', 'r']
  else if c = '\t' then ['\\', 't']
  else if shown c then [c]
  else numericEscape c

def quoteWith (shown : Char → Bool) (cs : List Char) : List Char :=
  let quote := quoteOf cs
  quote :: (cs.flatMap (escapeChar shown quote) ++ [quote])

def isAsciiPrintable (c : Char) : Bool := 0x20 ≤ c.toNat && c.toNat < 0x7F

def quoted (s : String) : String := String.ofList (quoteWith isPrintable s.toList)

end LineLint.Text
