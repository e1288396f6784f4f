import LineLint.Config.Fault
import LineLint.Text.Ansi

/- What a run prints and how it ends. -/
namespace LineLint.CommandLine

inductive Stream where
  | output
  | errors
  deriving DecidableEq, Repr

structure Printed where
  stream : Stream
  text : String
  deriving DecidableEq, Repr

/-- A run ends with an exit code, unless a fault that no check expects breaks it off. -/
inductive Ending where
  | exit (code : Nat)
  | broken (fault : UncheckedFault)
  deriving DecidableEq, Repr

structure Run where
  printed : List Printed
  ending : Ending
  deriving DecidableEq, Repr

def output (text : String) : Printed := ⟨.output, text⟩

def errorText (text : String) : Printed := ⟨.errors, text⟩

def badInput : Nat := 2

namespace Run

/-- A run that says what is wrong and does nothing else. -/
def refused (text : String) : Run := ⟨[errorText text], .exit badInput⟩

def exitCode (run : Run) : Nat :=
  match run.ending with
  | .exit code => code
  | .broken _ => 1

def textOn (run : Run) (stream : Stream) : String :=
  String.join ((run.printed.filter fun p => p.stream = stream).map fun p => p.text ++ "\n")

def plain (run : Run) : Run :=
  { run with printed := run.printed.map fun p => { p with text := Text.stripSequences p.text } }

end Run

end LineLint.CommandLine
