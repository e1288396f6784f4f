import LineLint.Matcher.Declaration
import LineLint.Matcher.Symbol

/- Matchers for rules that a caller makes up, by name. -/
namespace LineLint

namespace Pattern
open LineLint.Text

def findLong (cs : List Char) : Option Found :=
  let body := withoutFinalNewline cs
  if body.contains '\n' || body.length < 21 then none else some ⟨0, .start, []⟩

def long : Pattern := ⟨.text, findLong⟩

def findTodo (cs : List Char) : Option Found :=
  (leftmost (fun _ rest => dropWord ['T', 'O', 'D', 'O'] rest) none (cs.map Char.toUpper)).map
    fun (n, _) => ⟨n, .start, []⟩

def todo : Pattern := ⟨.text, findTodo⟩

def boundName (cs : List Char) : Option (Nat × List Char) := do
  let rest ← dropWord ['l', 'e', 't'] cs
  let (_, rest) ← takeSome isBlank rest
  let (name, _) ← takeSome isWord rest
  pure (offset cs rest, name)

def findBound (cs : List Char) : Option Found :=
  (leftmost (fun _ rest => boundName rest) none cs).map fun (n, start, name) =>
    ⟨n, .part (some (n + start)), [("name", String.ofList name)]⟩

def bound : Pattern := ⟨.code, findBound⟩

def optionalParams : List Char → Option (List (String × String))
  | 'c' :: 'a' :: 'b' :: _ => some [("k", "c"), ("name", "a")]
  | 'c' :: 'b' :: _ => some [("k", "c")]
  | _ => none

def findOptionalName (cs : List Char) : Option Found :=
  (leftmost (fun _ rest => optionalParams rest) none cs).map fun (n, params) =>
    ⟨n, .start, params⟩

def optionalName : Pattern := ⟨.code, findOptionalName⟩

def partAfterX : List Char → Option Bool
  | 'x' :: 'y' :: _ => some true
  | 'x' :: _ => some false
  | _ => none

def findOptionalPart (cs : List Char) : Option Found :=
  (leftmost (fun _ rest => partAfterX rest) none cs).map fun (n, present) =>
    ⟨n, .part (if present then some (n + 1) else none), []⟩

def optionalPart : Pattern := ⟨.code, findOptionalPart⟩

def keyAndValue (cs : List Char) : Option (List Char × List Char) := do
  let (key, rest) ← takeSome isWord cs
  match rest with
  | '=' :: rest => pure (key, rest.takeWhile isWord)
  | _ => none

def findPair (cs : List Char) : Option Found :=
  (leftmost (fun _ rest => keyAndValue rest) none cs).map fun (n, key, value) =>
    ⟨n, .start, [("key", String.ofList key), ("value", String.ofList value)]⟩

def pair : Pattern := ⟨.code, findPair⟩

end Pattern

namespace Matcher

def wholeLine : Matcher := fun _ => .ok (some ⟨none, []⟩)

def lineItself : Matcher := fun line =>
  .ok (some ⟨some line.number,
    [("text", String.ofList line.text), ("code", String.ofList line.code)]⟩)

def never : Matcher := fun _ => .ok none

def failing : Matcher := fun _ => .error "matcher bug"

def patterns : List (String × Pattern) :=
  [("semi", .character .code ';'), ("x", .character .code 'x'), ("tab", .character .text '\t'),
   ("long", .long), ("todo", .todo), ("let", .bound), ("opt", .optionalName),
   ("optat", .optionalPart), ("pair", .pair)]

def others : List (String × Matcher) :=
  [("whole", wholeLine), ("line", lineItself), ("never", never), ("boom", failing)]

def named? (name : String) : Option Matcher :=
  ((patterns.lookup name).map Pattern.matcher).or (others.lookup name)

end Matcher

end LineLint
