import LineLint.Json.Reader

/- The small parts of a TOML document: blanks, comments, strings and keys. A reader gives what it
   read and what follows, or nothing if the text is malformed. -/
namespace LineLint.Toml

def isControl (c : Char) : Bool := c.toNat < 0x20 || c.toNat = 0x7F

def isIllegal (c : Char) : Bool := isControl c && c != '\t'

def isIllegalInLines (c : Char) : Bool := isIllegal c && c != '\n'

def isBlank (c : Char) : Bool := c == ' ' || c == '\t'

def isBlankOrNewline (c : Char) : Bool := isBlank c || c == '\n'

def skipBlanks (cs : List Char) : List Char := cs.dropWhile isBlank

def skipComment : List Char → Option (List Char)
  | '#' :: rest =>
      if (rest.takeWhile (· != '\n')).any isIllegal then none
      else some (rest.dropWhile (· != '\n'))
  | cs => some cs

def skipVoid (inComment : Bool) : List Char → Option (List Char)
  | [] => some []
  | c :: rest =>
      if c = '\n' then skipVoid false rest
      else if inComment then if isIllegal c then none else skipVoid true rest
      else if isBlank c then skipVoid false rest
      else if c = '#' then skipVoid true rest
      else some (c :: rest)

def isScalarValue (n : Nat) : Bool := n < 0xD800 || 0xE000 ≤ n && n < 0x110000

def hexCharacter? (digits : List Char) : Option Char := do
  let values ← digits.mapM Json.hexValue?
  let n := values.foldl (fun n d => n * 16 + d) 0
  if isScalarValue n then some (Char.ofNat n) else none

def simpleEscape? : Char → Option Char
  | 'b' => some (Char.ofNat 0x08)
  | 't' => some '\t'
  | 'n' => some '\n'
  | 'f' => some (Char.ofNat 0x0C)
  | 'r' => some '\r'
  | '"' => some '"'
  | '\\' => some '\\'
  | _ => none

abbrev TextAndRest := Option (List Char × List Char)

def withFirst (c : Option Char) (rest : TextAndRest) : TextAndRest := do
  let c ← c
  let (cs, after) ← rest
  pure (c :: cs, after)

def readBasic : List Char → TextAndRest
  | [] => none
  | '"' :: rest => some ([], rest)
  | '\\' :: 'u' :: a :: b :: c :: d :: rest =>
      withFirst (hexCharacter? [a, b, c, d]) (readBasic rest)
  | '\\' :: 'U' :: a :: b :: c :: d :: e :: f :: g :: h :: rest =>
      withFirst (hexCharacter? [a, b, c, d, e, f, g, h]) (readBasic rest)
  | '\\' :: letter :: rest => withFirst (simpleEscape? letter) (readBasic rest)
  | c :: rest => if c = '\\' || isIllegal c then none else withFirst (some c) (readBasic rest)

/-- Where a reader stands in a string of several lines: in its text; after a backslash, before the
    line break that has to come; or after that, before the next character that counts. -/
inductive Fold where
  | text
  | beforeBreak
  | afterBreak
  deriving DecidableEq, Repr

def readLines (place : Fold) : List Char → TextAndRest
  | [] => none
  | c :: rest =>
      if place = .beforeBreak then
        if c = '\n' then readLines .afterBreak rest
        else if isBlank c then readLines .beforeBreak rest
        else none
      else if place = .afterBreak ∧ isBlankOrNewline c then readLines .afterBreak rest
      else
        match c, rest with
        | '"', '"' :: '"' :: after => some ([], after)
        | '\\', '\n' :: rest => readLines .afterBreak rest
        | '\\', ' ' :: rest => readLines .beforeBreak rest
        | '\\', '\t' :: rest => readLines .beforeBreak rest
        | '\\', 'u' :: a :: b :: c :: d :: rest =>
            withFirst (hexCharacter? [a, b, c, d]) (readLines .text rest)
        | '\\', 'U' :: a :: b :: c :: d :: e :: f :: g :: h :: rest =>
            withFirst (hexCharacter? [a, b, c, d, e, f, g, h]) (readLines .text rest)
        | '\\', letter :: rest => withFirst (simpleEscape? letter) (readLines .text rest)
        | c, rest =>
            if c = '\\' || isIllegalInLines c then none
            else withFirst (some c) (readLines .text rest)

def readLiteral : List Char → TextAndRest
  | [] => none
  | '\'' :: rest => some ([], rest)
  | c :: rest => if isIllegal c then none else withFirst (some c) (readLiteral rest)

def readLiteralLines : List Char → TextAndRest
  | [] => none
  | '\'' :: '\'' :: '\'' :: rest => some ([], rest)
  | c :: rest => if isIllegalInLines c then none else withFirst (some c) (readLiteralLines rest)

def dropFirstBreak : List Char → List Char
  | '\n' :: rest => rest
  | cs => cs

def withFinalQuotes (quote : Char) : List Char × List Char → List Char × List Char
  | (cs, a :: b :: rest) =>
      if a = quote then
        if b = quote then (cs ++ [quote, quote], rest) else (cs ++ [quote], b :: rest)
      else (cs, a :: b :: rest)
  | (cs, [a]) => if a = quote then (cs ++ [quote], []) else (cs, [a])
  | (cs, []) => (cs, [])

def readString : List Char → TextAndRest
  | '"' :: '"' :: '"' :: rest =>
      (readLines .text (dropFirstBreak rest)).map (withFinalQuotes '"')
  | '"' :: rest => readBasic rest
  | '\'' :: '\'' :: '\'' :: rest =>
      (readLiteralLines (dropFirstBreak rest)).map (withFinalQuotes '\'')
  | '\'' :: rest => readLiteral rest
  | _ => none

def isBareKey (c : Char) : Bool := c.isAlphanum || c == '-' || c == '_'

def isKeyStart (c : Char) : Bool := isBareKey c || c == '"' || c == '\''

def readKeyPart : List Char → Option (String × List Char)
  | '"' :: rest => (readBasic rest).map fun (cs, after) => (String.ofList cs, after)
  | '\'' :: rest => (readLiteral rest).map fun (cs, after) => (String.ofList cs, after)
  | cs =>
      let name := cs.takeWhile isBareKey
      if name.isEmpty then none else some (String.ofList name, cs.dropWhile isBareKey)

abbrev Key := List String

def readKeyWith : Nat → List Char → Option (Key × List Char)
  | 0, _ => none
  | fuel + 1, cs =>
      match readKeyPart cs with
      | none => none
      | some (part, rest) =>
          match skipBlanks rest with
          | '.' :: rest =>
              (readKeyWith fuel (skipBlanks rest)).map fun (key, after) => (part :: key, after)
          | rest => some ([part], rest)

-- Every part but the last is followed by a point, so the length is fuel enough.
def readKey (cs : List Char) : Option (Key × List Char) := readKeyWith (cs.length + 1) cs

end LineLint.Toml
