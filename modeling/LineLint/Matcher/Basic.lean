import LineLint.Line

/- Matchers look at one line and report a hit, nothing, or a failure of their own. Most are made
   from a pattern, which is searched for in the masked line or in the raw one. -/
namespace LineLint

/-- A matcher's report that a line breaks a rule. The column counts from 1; without one the rule
    applies to the whole line. The parameters fill the placeholders of the rule's summary. -/
structure Hit where
  column : Option Nat
  params : List (String × String)
  deriving DecidableEq, Repr

/-- The failure of a matcher is the text that describes it. -/
abbrev Matcher := Line → Except String (Option Hit)

/-- Where a pattern points: at the start of its match; or at a part of the match of its own, given
    by position, if that took part. -/
inductive Anchor where
  | start
  | part (position : Option Nat)
  deriving DecidableEq, Repr

/-- A match: how many characters stand before it, where it points, and its named parts. -/
structure Found where
  start : Nat
  anchor : Anchor
  params : List (String × String)
  deriving DecidableEq, Repr

/-- One more than the position pointed at; the position of a part that took none counts as one
    before the first. -/
def Found.column (found : Found) : Nat :=
  match found.anchor with
  | .start => found.start + 1
  | .part (some position) => position + 1
  | .part none => 0

def Found.hit (found : Found) : Hit := ⟨some found.column, found.params⟩

inductive Subject where
  | code
  | text
  deriving DecidableEq, Repr

def Subject.of (line : Line) : Subject → List Char
  | .code => line.code
  | .text => line.text

structure Pattern where
  subject : Subject
  find : List Char → Option Found

def Pattern.matcher (p : Pattern) : Matcher := fun line =>
  .ok ((p.find (p.subject.of line)).map Found.hit)

end LineLint
