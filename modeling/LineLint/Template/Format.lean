import LineLint.Template.Describe
import LineLint.Template.Number

/- The text of an object under a format. Only texts and numbers have one that is not empty. -/
namespace LineLint.Template

def formattedNumber (k : Kind) (n : Int) (spec : List Char) : Except Fault (List Char) :=
  (Spec.read k spec).bind fun spec => spec.applyToInteger k n

def formatted (spec : List Char) (o : Object) : Except Fault (List Char) :=
  if spec.isEmpty then .ok o.plain
  else
    match o with
    | .text cs => (Spec.read .text spec).bind fun spec => spec.applyToText cs
    | .integer n => formattedNumber .integer n spec
    | .truth b => formattedNumber .truth (if b then 1 else 0) spec
    | o => .error (.unformatted o.kindOf)

end LineLint.Template
