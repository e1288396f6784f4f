import LineLint.Config.Value
import LineLint.Toml.Fault

/- How deep the values of settings may be nested. A value that is nested too deep for the machine can
   be neither read nor written; where that begins differs from machine to machine, and with the place
   of the value. -/
namespace LineLint

/-- `writes` tells whether there is room to write a part of the value of a setting, given the setting's
    key and the depth of the part. -/
structure Limits where
  reads : Toml.Room
  writes : String → Nat → Value → Bool

inductive Obstacle where
  | tooDeep
  | longInteger
  deriving DecidableEq, Repr

namespace Limits

def unlimited : Limits := ⟨fun _ _ => true, fun _ _ _ => true⟩

variable (limits : Limits) (key : String)

/-- For the value as a whole there always is room. -/
def obstacle? (depth : Nat) (part : Value) : Option Obstacle :=
  if depth ≠ 0 ∧ limits.writes key depth part = false then some .tooDeep
  else
    match part with
    | .integer n => if Value.isLong n then some .longInteger else none
    | _ => none

def unwritten? (value : Value) : Option Obstacle :=
  (value.parts 0).findSome? fun part => limits.obstacle? key part.1 part.2

end Limits

end LineLint
