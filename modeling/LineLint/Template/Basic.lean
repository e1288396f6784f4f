import LineLint.Template.Fault

/- Templates. A brace written twice stands for itself; a brace alone opens a field, which holds a
   name, a conversion after an exclamation mark and a format after a colon. -/
namespace LineLint.Template

structure Field where
  name : List Char
  conversion : Option Char
  spec : List Char
  deriving DecidableEq, Repr

inductive Piece where
  | plain (c : Char)
  | field (f : Field)
  deriving DecidableEq, Repr

/-- The name of a field with the character that ends it, and what follows. What stands in brackets
    ends nothing. -/
def readName (inBrackets : Bool) : List Char → Except Fault (List Char × Char × List Char)
  | [] => .error .unclosedField
  | c :: rest =>
      if inBrackets then
        (readName (c != ']') rest).map fun (name, last, after) => (c :: name, last, after)
      else if c = '{' then .error .openInName
      else if c = '}' ∨ c = ':' ∨ c = '!' then .ok ([], c, rest)
      else (readName (c == '[') rest).map fun (name, last, after) => (c :: name, last, after)

def readSpec (opened : Nat) : List Char → Except Fault (List Char × List Char)
  | [] => .error .unclosedSpec
  | '}' :: rest =>
      match opened with
      | 0 => .ok ([], rest)
      | opened + 1 => (readSpec opened rest).map fun (spec, after) => ('}' :: spec, after)
  | '{' :: rest => (readSpec (opened + 1) rest).map fun (spec, after) => ('{' :: spec, after)
  | c :: rest => (readSpec opened rest).map fun (spec, after) => (c :: spec, after)

def readConversion (name : List Char) : List Char → Except Fault (Field × List Char)
  | [] => .error .missingConversion
  | conversion :: '}' :: rest => .ok (⟨name, some conversion, []⟩, rest)
  | conversion :: ':' :: rest =>
      (readSpec 0 rest).map fun (spec, after) => (⟨name, some conversion, spec⟩, after)
  | [_] => .error .unclosedSpec
  | _ :: _ :: _ => .error .colonExpected

def readField (cs : List Char) : Except Fault (Field × List Char) :=
  match readName false cs with
  | .error fault => .error fault
  | .ok (name, '!', rest) => readConversion name rest
  | .ok (name, ':', rest) => (readSpec 0 rest).map fun (spec, after) => (⟨name, none, spec⟩, after)
  | .ok (name, _, rest) => .ok (⟨name, none, []⟩, rest)

def piecesWith : Nat → List Char → List Piece × Option Fault
  | 0, _ => ([], none)
  | _, [] => ([], none)
  | fuel + 1, '{' :: '{' :: rest =>
      let (pieces, fault) := piecesWith fuel rest
      (.plain '{' :: pieces, fault)
  | fuel + 1, '}' :: '}' :: rest =>
      let (pieces, fault) := piecesWith fuel rest
      (.plain '}' :: pieces, fault)
  | _, '}' :: _ => ([], some .loneClose)
  | _, ['{'] => ([], some .loneOpen)
  | fuel + 1, '{' :: rest =>
      match readField rest with
      | .error fault => ([], some fault)
      | .ok (field, rest) =>
          let (pieces, fault) := piecesWith fuel rest
          (.field field :: pieces, fault)
  | fuel + 1, c :: rest =>
      let (pieces, fault) := piecesWith fuel rest
      (.plain c :: pieces, fault)

-- Every piece takes a character at least, so the length is fuel enough.
def pieces (cs : List Char) : List Piece × Option Fault := piecesWith cs.length cs

end LineLint.Template
