import LineLint.Toml.Scalar
import LineLint.Toml.Table

/- Values of a TOML document, with arrays and inline tables. -/
namespace LineLint.Toml

/-- The fields of an inline table read so far, and the keys whose values are closed. -/
structure Inline where
  fields : Fields
  closed : List Key

namespace Inline

def empty : Inline := ⟨[], []⟩

def add (t : Inline) (key : Key) (value : Value) : Option Inline :=
  if t.closed.any fun first => extends? key first then none
  else do
    let (parent, name) ← splitLast? key
    let fields ← updateAt false (addField name value) parent t.fields
    pure ⟨fields, if isClosed value then key :: t.closed else t.closed⟩

end Inline

mutual

def readValue (room : Room) : Nat → List Bracket → List Char → Except Fault (Value × List Char)
  | 0, _, _ => .error .malformed
  | fuel + 1, brackets, cs => do
      checkRoom room brackets cs
      match cs with
      | '"' :: _ =>
          (required (readString cs)).map fun (s, rest) => (.text (String.ofList s), rest)
      | '\'' :: _ =>
          (required (readString cs)).map fun (s, rest) => (.text (String.ofList s), rest)
      | 't' :: 'r' :: 'u' :: 'e' :: rest => .ok (.bool true, rest)
      | 'f' :: 'a' :: 'l' :: 's' :: 'e' :: rest => .ok (.bool false, rest)
      | '[' :: rest =>
          (readItems room fuel (.square :: brackets) rest).map fun (items, rest) =>
            (.list items, rest)
      | '{' :: rest =>
          checkRoom room (.curly :: brackets) rest
          match skipBlanks rest with
          | '}' :: rest => .ok (.table [], rest)
          | rest =>
              (readInline room fuel (.curly :: brackets) .empty rest).map fun (t, rest) =>
                (.table t.fields, rest)
      | _ => readScalar cs

def readItems (room : Room) :
    Nat → List Bracket → List Char → Except Fault (List Value × List Char)
  | 0, _, _ => .error .malformed
  | fuel + 1, brackets, cs => do
      checkRoom room brackets cs
      match ← required (skipVoid false cs) with
      | ']' :: rest => pure ([], rest)
      | start =>
          let (item, rest) ← readValue room fuel brackets start
          checkRoom room brackets rest
          match ← required (skipVoid false rest) with
          | ']' :: rest => pure ([item], rest)
          | ',' :: rest =>
              let (items, rest) ← readItems room fuel brackets rest
              pure (item :: items, rest)
          | _ => .error .malformed

def readInline (room : Room) :
    Nat → List Bracket → Inline → List Char → Except Fault (Inline × List Char)
  | 0, _, _, _ => .error .malformed
  | fuel + 1, brackets, t, cs => do
      checkRoom room brackets cs
      let (key, rest) ← required (readKey cs)
      match rest with
      | '=' :: rest =>
          let (value, rest) ← readValue room fuel brackets (skipBlanks rest)
          let t ← required (t.add key value)
          checkRoom room brackets rest
          match skipBlanks rest with
          | '}' :: rest => pure (t, rest)
          | ',' :: rest => readInline room fuel brackets t (skipBlanks rest)
          | _ => .error .malformed
      | _ => .error .malformed

end

end LineLint.Toml
