import LineLint.Text.Quoted
import LineLint.Text.Utf8

/- Source texts as they are handed in: bytes, which have to be UTF-8 and may begin with one
   byte-order mark, or code points, among which surrogates have no encoded form. -/
namespace LineLint

inductive Source where
  | bytes (content : List UInt8)
  | points (content : List Nat)
  deriving DecidableEq, Repr

/-- Why a source is no text. A run of surrogates is given by its first code point and by the
    positions of its first and last. -/
inductive EncodingFault where
  | bytes (fault : Text.DecodeFault)
  | surrogates (point first last : Nat)
  deriving DecidableEq, Repr

def isSurrogate (n : Nat) : Bool := 0xD800 ≤ n && n < 0xE000

def withoutMark : List UInt8 → List UInt8
  | 0xEF :: 0xBB :: 0xBF :: rest => rest
  | bytes => bytes

def decodeSource (bytes : List UInt8) : Except EncodingFault (List Char) :=
  match Text.decode (withoutMark bytes) with
  | .ok text => .ok text
  | .error fault => .error (.bytes fault)

/-- The text that code points make up, if no surrogate is among them; else the first run of
    surrogates. Positions are counted from the one given. -/
def checkPoints (position : Nat) : List Nat → Except EncodingFault (List Char)
  | [] => .ok []
  | n :: rest =>
      if isSurrogate n then
        .error (.surrogates n position (position + (rest.takeWhile isSurrogate).length))
      else
        match checkPoints (position + 1) rest with
        | .ok text => .ok (Char.ofNat n :: text)
        | .error fault => .error fault

def checkText (points : List Nat) : Except EncodingFault (List Char) := checkPoints 0 points

def Source.text : Source → Except EncodingFault (List Char)
  | .bytes content => decodeSource content
  | .points content => checkText content

namespace EncodingFault

def causeText : Text.DecodeCause → String
  | .invalidStart => "invalid start byte"
  | .invalidContinuation => "invalid continuation byte"
  | .unexpectedEnd => "unexpected end of data"

def spanText (first last : Nat) : String := toString first ++ "-" ++ toString last

def hexText (width n : Nat) : String := String.ofList (Text.hexDigits width n)

def reason : EncodingFault → String
  | .bytes fault =>
      let subject := match fault.bytes with
        | [byte] => "byte 0x" ++ hexText 2 byte.toNat ++ " in position " ++ toString fault.start
        | several => "bytes in position " ++
            spanText fault.start (fault.start + several.length - 1)
      "'utf-8' codec can't decode " ++ subject ++ ": " ++ causeText fault.cause
  | .surrogates point first last =>
      let subject :=
        if first = last then
          "character '\\u" ++ hexText 4 point ++ "' in position " ++ toString first
        else "characters in position " ++ spanText first last
      "'utf-8' codec can't encode " ++ subject ++ ": surrogates not allowed"

def message (source : String) (fault : EncodingFault) : String :=
  source ++ ": cannot decode as UTF-8: " ++ fault.reason

end EncodingFault

def unnamedSource : String := "<input>"

end LineLint
