import LineLint.Matcher.Declaration

/- Type declarations at the start of a line whose name begins with a small letter. -/
namespace LineLint.Pattern
open LineLint.Text

def modifiers : List String :=
  ["public", "private", "fileprivate", "internal", "package", "open", "final", "indirect",
   "nonisolated", "distributed"]

def typeKeywords : List String := ["class", "struct", "enum", "protocol", "actor", "typealias"]

def memberWords : List String :=
  ["func", "var", "let", "subscript", "init", "deinit", "override", "final", "static", "private",
   "fileprivate", "internal", "public", "open", "convenience", "required"]

def isOneOf (words : List String) (cs : List Char) : Bool := words.any fun word => word.toList == cs

def dropArguments : List Char → List Char
  | '(' :: rest =>
      match rest.dropWhile (· != ')') with
      | ')' :: after => after
      | _ => '(' :: rest
  | cs => cs

def dropAttribute : List Char → Option (List Char)
  | '@' :: rest => do
      let (_, rest) ← takeSome isWord rest
      let (_, rest) ← takeSome isBlank (dropArguments rest)
      pure rest
  | _ => none

def takeKeyword (words : List String) (cs : List Char) : Option (List Char × List Char) := do
  let (word, rest) ← takeSome isWord cs
  if isOneOf words word then
    let (_, rest) ← takeSome isBlank rest
    pure (word, rest)
  else none

def dropModifier (cs : List Char) : Option (List Char) := (takeKeyword modifiers cs).map Prod.snd

def repeated (drop : List Char → Option (List Char)) : Nat → List Char → List Char
  | 0, cs => cs
  | fuel + 1, cs =>
      match drop cs with
      | some rest => repeated drop fuel rest
      | none => cs

def dropAll (drop : List Char → Option (List Char)) (cs : List Char) : List Char :=
  -- Each step shortens the text, so its length is fuel enough.
  repeated drop cs.length cs

def isSmallTypeName (name : List Char) : Bool :=
  name.head?.any isAsciiLower && !isOneOf memberWords name

def findSmallType (cs : List Char) : Option Found := do
  let rest := dropAll dropModifier (dropAll dropAttribute (cs.dropWhile isBlank))
  let (keyword, rest) ← takeKeyword typeKeywords rest
  let name := rest.takeWhile isWord
  if isSmallTypeName name then
    some ⟨0, .part (some (offset cs rest)),
      [("keyword", String.ofList keyword), ("name", String.ofList name)]⟩
  else none

def smallTypeName : Pattern := ⟨.code, findSmallType⟩

end LineLint.Pattern
