import LineLint.CommandLine

/- The program. It reads the files that a run may ask for, and prints what the run prints. -/
namespace LineLint

-- The system's numbers come as they are or negated.
def AccessFault.ofSystem (code : UInt32) (text : String) : AccessFault :=
  let number := min code.toNat (-code).toNat
  let known : List AccessFault := [.missing, .denied, .notDirectory, .isDirectory, .longName]
  match known.find? fun fault => fault.number = number with
  | some fault => fault
  | none => if single : '\n' ∉ text.toList then ⟨number, text, single⟩ else ⟨number, "", by decide⟩

def AccessFault.ofError : IO.Error → AccessFault
  | .noFileOrDirectory _ code text => ofSystem code text
  | .noSuchThing _ code text => ofSystem code text
  | .permissionDenied _ code text => ofSystem code text
  | .inappropriateType _ code text => ofSystem code text
  | .invalidArgument _ code text => ofSystem code text
  | .resourceExhausted _ code text => ofSystem code text
  | .hardwareFault code text => ofSystem code text
  | .otherError code text => ofSystem code text
  | _ => .missing

def attempt {α : Type} (action : IO α) : IO (Except AccessFault α) := do
  try return .ok (← action)
  catch error => return .error (.ofError error)

-- What may not be read is there if its path can be followed, and it is no directory if a path cannot
-- go on from it.
def lookUp (path : String) : IO (Except AccessFault Entry) := do
  match ← attempt (IO.FS.readBinFile path) with
  | .ok content => return .ok (.file content.toList)
  | .error fault =>
      if fault.number = AccessFault.isDirectory.number then return .ok .directory
      if fault.number ≠ AccessFault.denied.number then return .error fault
      match ← attempt (IO.FS.realPath path) with
      | .error _ => return .error fault
      | .ok _ =>
          match ← attempt (IO.FS.readBinFile (path ++ "/.")) with
          | .ok _ => return .ok (.locked true fault)
          | .error inside =>
              return .ok (.locked (inside.number ≠ AccessFault.notDirectory.number) fault)

def filesAt (paths : List String) : IO Files := do
  let found ← paths.mapM fun path => return (path, ← lookUp path)
  return fun path => (found.lookup path).getD (.error .missing)

-- Deeper nesting is refused long before the program's own stack is used up. The limit is this program's
-- choice alone: what is proved of a run holds for whatever limits its environment has.
def deepest : Nat := 986

def roomTaken : List Toml.Bracket → Nat
  | [] => 0
  | .square :: rest => roomTaken rest + 2
  | .curly :: rest => roomTaken rest + 3

def limits : Limits where
  reads brackets _ := roomTaken brackets ≤ deepest
  writes _ depth _ := depth ≤ deepest

def print (printed : CommandLine.Printed) : IO Unit := do
  let stream ← match printed.stream with
    | .output => IO.getStdout
    | .errors => IO.getStderr
  stream.putStrLn (if ← stream.isTty then printed.text else Text.stripSequences printed.text)

end LineLint

def main (line : List String) : IO UInt32 := do
  let current ← LineLint.attempt IO.currentDir
  let directories := current.map fun directory => LineLint.Path.upward (toString directory)
  let files ← LineLint.filesAt (LineLint.CommandLine.pathsIn directories line)
  let environment := ⟨files, directories, ← IO.getEnv "NO_COLOR", LineLint.limits⟩
  let run := LineLint.CommandLine.run "stylint" environment line
  run.printed.forM LineLint.print
  if let .broken fault := run.ending then IO.eprintln fault.message
  return run.exitCode.toUInt32
