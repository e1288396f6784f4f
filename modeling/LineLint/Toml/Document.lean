import LineLint.Toml.Literal

/- TOML documents: fields, one a line, and headers that open the table they belong to. -/
namespace LineLint.Toml

/-- A document read so far. Closed keys lead to values that cannot be added to, and opened keys to
    tables that no header may open again; tables made by keys with points count as opened from the
    next header on. -/
structure Document where
  fields : Fields
  closed : List Key
  opened : List Key
  pending : List Key
  header : Key

namespace Document

def empty : Document := ⟨[], [], [], [], []⟩

def isClosedKey (doc : Document) (key : Key) : Bool :=
  doc.closed.any fun first => extends? key first

def settlePending (doc : Document) : Document :=
  { doc with opened := doc.pending ++ doc.opened, pending := [] }

def release (doc : Document) (key : Key) : Document :=
  { doc with
    closed := doc.closed.filter fun k => !extends? k key
    opened := doc.opened.filter fun k => !extends? k key }

def openTable (doc : Document) (key : Key) : Option Document :=
  if doc.opened.contains key || doc.isClosedKey key then none
  else do
    let fields ← updateAt true some key doc.fields
    pure { doc with fields, opened := key :: doc.opened, header := key }

def openItem (doc : Document) (key : Key) : Option Document :=
  if doc.isClosedKey key then none
  else do
    let (parent, name) ← splitLast? key
    let fields ← updateAt true (addTable name) parent doc.fields
    let doc := doc.release key
    pure { doc with fields, opened := key :: doc.opened, header := key }

def passed (header key : Key) : List Key :=
  (List.range (key.length - 1)).map fun n => header ++ key.take (n + 1)

def addValue (doc : Document) (key : Key) (value : Value) : Option Document :=
  let through := passed doc.header key
  if through.any fun k => doc.opened.contains k then none
  else do
    let (parent, name) ← splitLast? (doc.header ++ key)
    if doc.isClosedKey parent then none
    let fields ← updateAt true (addField name value) parent doc.fields
    pure
      { doc with
        fields
        pending := through ++ doc.pending
        closed := if isClosed value then (doc.header ++ key) :: doc.closed else doc.closed }

def readField (room : Room) (doc : Document) (cs : List Char) :
    Except Fault (Document × List Char) := do
  let (key, rest) ← required (readKey cs)
  match rest with
  | '=' :: rest =>
      let start := skipBlanks rest
      let (value, rest) ← readValue room (2 * start.length + 2) [] start
      let doc ← required (doc.addValue key value)
      pure (doc, rest)
  | _ => .error .malformed

def readHeader (doc : Document) : List Char → Option (Document × List Char)
  | '[' :: rest => do
      let (key, rest) ← readKey (skipBlanks rest)
      match rest with
      | ']' :: ']' :: rest => (doc.settlePending.openItem key).map fun doc => (doc, rest)
      | _ => none
  | cs => do
      let (key, rest) ← readKey (skipBlanks cs)
      match rest with
      | ']' :: rest => (doc.settlePending.openTable key).map fun doc => (doc, rest)
      | _ => none

def readStatement (room : Room) (doc : Document) (cs : List Char) :
    Except Fault (Document × List Char) :=
  match cs with
  | [] => .ok (doc, [])
  | c :: rest =>
      if c = '\n' ∨ c = '#' then .ok (doc, cs)
      else if isKeyStart c then doc.readField room cs
      else if c = '[' then required (doc.readHeader rest)
      else .error .malformed

def readFrom (room : Room) : Nat → Document → List Char → Except Fault Document
  | 0, doc, _ => .ok doc
  | fuel + 1, doc, cs => do
      let (doc, rest) ← doc.readStatement room (skipBlanks cs)
      match ← required (skipComment (skipBlanks rest)) with
      | [] => pure doc
      | '\n' :: rest => readFrom room fuel doc rest
      | _ => .error .malformed

end Document

def joinLineEnds : List Char → List Char
  | '\r' :: '\n' :: rest => '\n' :: joinLineEnds rest
  | c :: rest => c :: joinLineEnds rest
  | [] => []

def parse (room : Room) (text : List Char) : Except Fault Fields :=
  let cs := joinLineEnds text
  -- Every line takes a character at least, so the length is fuel enough.
  (Document.readFrom room (cs.length + 1) .empty cs).map Document.fields

end LineLint.Toml
