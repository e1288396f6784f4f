import LineLint.Json

/- The written form of a value: one item or field a line, indented by two spaces a level, in ASCII
   alone. A character outside ASCII is written as its UTF-16 units. -/
namespace LineLint.Json

def hexDigit (n : Nat) : Char := Nat.digitChar (n % 16)

def escapedUnit (n : Nat) : List Char :=
  ['\\', 'u', hexDigit (n / 0x1000), hexDigit (n / 0x100), hexDigit (n / 0x10), hexDigit n]

def utf16 (c : Char) : List Nat :=
  if c.toNat < 0x10000 then [c.toNat]
  else [0xD800 + (c.toNat - 0x10000) / 0x400, 0xDC00 + (c.toNat - 0x10000) % 0x400]

def shownPlain (c : Char) : Bool := 0x20 ≤ c.toNat && c.toNat < 0x7F && c != '"' && c != '\\'

def shortEscape? (c : Char) : Option Char :=
  if c = '"' then some '"'
  else if c = '\\' then some '\\'
  else if c = '\n' then some 'n'
  else if c = '\r' then some 'r'
  else if c = '\t' then some 't'
  else if c.toNat = 0x08 then some 'b'
  else if c.toNat = 0x0C then some 'f'
  else none

def escaped (c : Char) : List Char :=
  if shownPlain c then [c]
  else
    match shortEscape? c with
    | some letter => ['\\', letter]
    | none => (utf16 c).flatMap escapedUnit

def writeText (s : String) : List Char := '"' :: (s.toList.flatMap escaped ++ ['"'])

def writeInteger (n : Int) : List Char :=
  if n < 0 then '-' :: Nat.toDigits 10 n.natAbs else Nat.toDigits 10 n.natAbs

def writeDecimal (d : Decimal) : List Char :=
  (if d.negative then ['-'] else []) ++ Nat.toDigits 10 d.digits ++ 'e' :: writeInteger d.exponent

def newLine (level : Nat) : List Char := '\n' :: List.replicate (2 * level) ' '

mutual

def write (level : Nat) : Json → List Char
  | .null => ['n', 'u', 'l', 'l']
  | .bool true => ['t', 'r', 'u', 'e']
  | .bool false => ['f', 'a', 'l', 's', 'e']
  | .integer n => writeInteger n
  | .decimal d => writeDecimal d
  | .text s => writeText s
  | .array [] => ['[', ']']
  | .array (item :: items) =>
      '[' :: (newLine (level + 1) ++ write (level + 1) item ++ writeItems level items)
  | .object [] => ['{', '}']
  | .object ((name, value) :: fields) =>
      '{' :: (newLine (level + 1) ++ writeText name ++ ':' :: ' ' :: write (level + 1) value ++
        writeFields level fields)

def writeItems (level : Nat) : List Json → List Char
  | [] => newLine level ++ [']']
  | item :: items =>
      ',' :: (newLine (level + 1) ++ write (level + 1) item ++ writeItems level items)

def writeFields (level : Nat) : List (String × Json) → List Char
  | [] => newLine level ++ ['}']
  | (name, value) :: fields =>
      ',' :: (newLine (level + 1) ++ writeText name ++ ':' :: ' ' :: write (level + 1) value ++
        writeFields level fields)

end

def pretty (value : Json) : String := String.ofList (value.write 0)

end LineLint.Json
