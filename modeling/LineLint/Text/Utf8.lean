/- Strict UTF-8: no overlong forms, no surrogates, nothing above U+10FFFF.
   A byte sequence that is no encoding is described by its first fault. -/
namespace LineLint.Text

def encodeChar (c : Char) : List UInt8 :=
  let n := c.toNat
  if n < 0x80 then [n.toUInt8]
  else if n < 0x800 then [(0xC0 + n / 0x40).toUInt8, (0x80 + n % 0x40).toUInt8]
  else if n < 0x10000 then
    [(0xE0 + n / 0x1000).toUInt8, (0x80 + n / 0x40 % 0x40).toUInt8, (0x80 + n % 0x40).toUInt8]
  else
    [(0xF0 + n / 0x40000).toUInt8, (0x80 + n / 0x1000 % 0x40).toUInt8,
      (0x80 + n / 0x40 % 0x40).toUInt8, (0x80 + n % 0x40).toUInt8]

def encode (cs : List Char) : List UInt8 := cs.flatMap encodeChar

inductive DecodeCause where
  | invalidStart
  | invalidContinuation
  | unexpectedEnd
  deriving DecidableEq, Repr

/-- The faulty bytes: where they start, which they are, and what is wrong with them. -/
structure DecodeFault where
  start : Nat
  bytes : List UInt8
  cause : DecodeCause
  deriving DecidableEq, Repr

/-- What a lead byte promises: how many bytes follow, the range of the first of them, and the
    bits of the code point that the lead byte itself carries. -/
structure Lead where
  following : Nat
  lo : Nat
  hi : Nat
  bits : Nat
  deriving DecidableEq, Repr

def lead? (byte : UInt8) : Option Lead :=
  let b := byte.toNat
  if b < 0x80 then some ⟨0, 0, 0, b⟩
  else if b < 0xC2 then none
  else if b < 0xE0 then some ⟨1, 0x80, 0xBF, b - 0xC0⟩
  else if b = 0xE0 then some ⟨2, 0xA0, 0xBF, 0⟩
  else if b = 0xED then some ⟨2, 0x80, 0x9F, 0xD⟩
  else if b < 0xF0 then some ⟨2, 0x80, 0xBF, b - 0xE0⟩
  else if b = 0xF0 then some ⟨3, 0x90, 0xBF, 0⟩
  else if b < 0xF4 then some ⟨3, 0x80, 0xBF, b - 0xF0⟩
  else if b = 0xF4 then some ⟨3, 0x80, 0x8F, 4⟩
  else none

/-- Where the decoder stands inside a character: the bytes read of it, its bits so far, the
    number of bytes still due and the range of the next one. -/
structure Pending where
  read : List UInt8
  bits : Nat
  due : Nat
  lo : Nat
  hi : Nat
  deriving DecidableEq, Repr

def decodeFrom (position : Nat) : Option Pending → List UInt8 → Except DecodeFault (List Char)
  | none, [] => .ok []
  | some p, [] => .error ⟨position - p.read.length, p.read, .unexpectedEnd⟩
  | none, byte :: rest =>
      match lead? byte with
      | none => .error ⟨position, [byte], .invalidStart⟩
      | some l =>
          if l.following = 0 then (decodeFrom (position + 1) none rest).map (Char.ofNat l.bits :: ·)
          else decodeFrom (position + 1) (some ⟨[byte], l.bits, l.following, l.lo, l.hi⟩) rest
  | some p, byte :: rest =>
      if p.lo ≤ byte.toNat ∧ byte.toNat ≤ p.hi then
        let bits := p.bits * 0x40 + (byte.toNat - 0x80)
        if p.due = 1 then (decodeFrom (position + 1) none rest).map (Char.ofNat bits :: ·)
        else decodeFrom (position + 1) (some ⟨p.read ++ [byte], bits, p.due - 1, 0x80, 0xBF⟩) rest
      else .error ⟨position - p.read.length, p.read, .invalidContinuation⟩

def decode (bytes : List UInt8) : Except DecodeFault (List Char) := decodeFrom 0 none bytes

end LineLint.Text
