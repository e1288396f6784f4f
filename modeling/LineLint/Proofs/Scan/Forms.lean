import LineLint.Proofs.Line.Split
import LineLint.Proofs.Scan.Findings
import LineLint.Proofs.Source.Reading
import LineLint.Rule.Builtin

/- A text may be handed in as its code points or as its encoded bytes. In front of bytes one byte-order
   mark is no part of the text, in front of code points it is a character like any other; but for that
   character the two forms come to the same. -/
namespace LineLint

/-- The character that is encoded as the byte-order mark. -/
def markCharacter : Char := '\uFEFF'

def unmarked : List Char → List Char
  | [] => []
  | c :: rest => if c = markCharacter then rest else c :: rest

theorem mark_encoded : Text.encodeChar markCharacter = [0xEF, 0xBB, 0xBF] := by decide

theorem without_mark_append (bytes : List UInt8) :
    withoutMark (Text.encodeChar markCharacter ++ bytes) = bytes := by
  rw [mark_encoded]
  rfl

theorem mark_leads {c : Char} {text : List Char} {rest : List UInt8}
    (leads : Text.encode (c :: text) = Text.encodeChar markCharacter ++ rest) :
    c = markCharacter := by
  have read : Text.decode (Text.encode (c :: text)) = .ok (c :: text) :=
    (Text.decode_eq_ok_iff _ _).mpr rfl
  rw [leads, Text.decode, Text.decode_encoded (Text.encoded_char markCharacter)] at read
  cases later : Text.decodeFrom (0 + (Text.encodeChar markCharacter).length) none rest with
  | error fault =>
    rw [later] at read
    cases read
  | ok found =>
    rw [later] at read
    have first := Except.ok.inj read
    rw [Char.ofNat_toNat] at first
    exact (List.cons.inj first).1.symm

end LineLint
