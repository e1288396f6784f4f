/- Sets of characters given by closed ranges of code points.
   The tables are ascending, so a search stops at the first range above the code point. -/
namespace LineLint.Text

abbrev Ranges := List (Nat × Nat)

def Ranges.holds : Ranges → Nat → Bool
  | [], _ => false
  | (lo, hi) :: rest, n => if n < lo then false else n ≤ hi || Ranges.holds rest n

end LineLint.Text
