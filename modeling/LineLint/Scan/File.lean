import LineLint.Files
import LineLint.Path
import LineLint.Scan

/- Scanning a file: it is read as bytes. -/
namespace LineLint

inductive InputFault where
  | nullByte
  | unreadable (path : String) (fault : AccessFault)
  | encoding (path : String) (fault : EncodingFault)
  deriving DecidableEq, Repr

def InputFault.message : InputFault → String
  | .nullByte => UncheckedFault.nullByte.message
  | .unreadable path fault => path ++ ": " ++ fault.text
  | .encoding path fault => fault.message path

def readSource (files : Files) (path : String) : Except InputFault (List Char) :=
  let path := Path.normalized path
  if Path.holdsNull path then .error .nullByte
  else
    match files.read path with
    | .error fault => .error (.unreadable path fault)
    | .ok bytes => (decodeSource bytes).mapError (.encoding path)

def scanFile (files : Files) (rules : List Rule) (path : String) : Except InputFault ScanResult :=
  (readSource files path).map (scanText rules)

end LineLint
