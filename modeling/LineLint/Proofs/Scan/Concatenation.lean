import LineLint.Proofs.Line.Split
import LineLint.Proofs.Masking.StaleDepth
import LineLint.Proofs.Scan.Findings
import LineLint.Proofs.Source.Reading
import LineLint.Rule.Builtin

/- Scanning two texts as one. Where they meet between lines and nothing is open, the lines of the whole
   are those of the first text and, numbered on, those of the second. As far as no rule looks at the
   number of a line, so are the violations. -/
namespace LineLint

namespace Masker

def left (m : Masker) : List (List Char × Masker) → Masker
  | [] => m
  | (_, next) :: rest => next.left rest

end Masker

def openAfter (text : List Char) : Except MaskFault (List Construct) :=
  (Masker.start.trace (splitLines text)).map fun steps => (Masker.start.left steps).stack

end LineLint
