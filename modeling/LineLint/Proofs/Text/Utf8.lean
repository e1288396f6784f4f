import LineLint.Text.Utf8
import Mathlib.Data.List.Basic

/- The decoder reads exactly the texts that the encoder writes. Between them stands the table of
   well-formed byte sequences, one row for each length. -/
namespace LineLint.Text

def Follows (byte : UInt8) : Prop := 0x80 ≤ byte.toNat ∧ byte.toNat ≤ 0xBF

/-- The bytes of one character, and its code point. No form is longer than it has to be, none is
    that of a surrogate, and none is above the last code point. -/
inductive Encoded : List UInt8 → Nat → Prop where
  | one {a : UInt8} (ascii : a.toNat < 0x80) : Encoded [a] a.toNat
  | two {a b : UInt8} (lead : 0xC2 ≤ a.toNat ∧ a.toNat < 0xE0) (second : Follows b) :
      Encoded [a, b] ((a.toNat - 0xC0) * 0x40 + (b.toNat - 0x80))
  | three {a b c : UInt8} (lead : 0xE0 ≤ a.toNat ∧ a.toNat < 0xF0) (second : Follows b)
      (short : a.toNat = 0xE0 → 0xA0 ≤ b.toNat) (scalar : a.toNat = 0xED → b.toNat ≤ 0x9F)
      (third : Follows c) :
      Encoded [a, b, c]
        (((a.toNat - 0xE0) * 0x40 + (b.toNat - 0x80)) * 0x40 + (c.toNat - 0x80))
  | four {a b c d : UInt8} (lead : 0xF0 ≤ a.toNat ∧ a.toNat < 0xF5) (second : Follows b)
      (short : a.toNat = 0xF0 → 0x90 ≤ b.toNat) (scalar : a.toNat = 0xF4 → b.toNat ≤ 0x8F)
      (third : Follows c) (fourth : Follows d) :
      Encoded [a, b, c, d]
        ((((a.toNat - 0xF0) * 0x40 + (b.toNat - 0x80)) * 0x40 + (c.toNat - 0x80)) * 0x40 +
          (d.toNat - 0x80))

theorem to_nat_of_nat {n : Nat} (valid : n.isValidChar) : (Char.ofNat n).toNat = n := by
  rw [Char.ofNat, dif_pos valid]
  rfl

theorem byte_of_nat {n : Nat} {byte : UInt8} (same : n = byte.toNat) : n.toUInt8 = byte := by
  rw [same]
  exact UInt8.ofNat_toNat

theorem nat_of_byte {n : Nat} (small : n < 0x100) : n.toUInt8.toNat = n :=
  UInt8.toNat_ofNat_of_lt' small

theorem encoded_valid {bytes : List UInt8} {n : Nat} (encoded : Encoded bytes n) :
    n.isValidChar := by
  cases encoded <;> simp only [Nat.isValidChar, Follows] at * <;> omega

theorem encoded_nonempty {bytes : List UInt8} {n : Nat} (encoded : Encoded bytes n) :
    0 < bytes.length := by
  cases encoded <;> simp

theorem encode_char_of_encoded {bytes : List UInt8} {n : Nat} (encoded : Encoded bytes n) :
    encodeChar (Char.ofNat n) = bytes := by
  rw [encodeChar, to_nat_of_nat (encoded_valid encoded)]
  cases encoded with
  | one ascii =>
    rw [if_pos ascii, byte_of_nat rfl]
  | two lead second =>
    simp only [Follows] at second
    rw [if_neg (by omega), if_pos (by omega)]
    simp only [List.cons.injEq, and_true]
    exact ⟨byte_of_nat (by omega), byte_of_nat (by omega)⟩
  | three lead second short scalar third =>
    simp only [Follows] at second third
    rw [if_neg (by omega), if_neg (by omega), if_pos (by omega)]
    simp only [List.cons.injEq, and_true]
    exact ⟨byte_of_nat (by omega), byte_of_nat (by omega), byte_of_nat (by omega)⟩
  | four lead second short scalar third fourth =>
    simp only [Follows] at second third fourth
    rw [if_neg (by omega), if_neg (by omega), if_neg (by omega)]
    simp only [List.cons.injEq, and_true]
    exact ⟨byte_of_nat (by omega), byte_of_nat (by omega), byte_of_nat (by omega),
      byte_of_nat (by omega)⟩

theorem encoded_char (c : Char) : Encoded (encodeChar c) c.toNat := by
  have valid : c.toNat.isValidChar := c.valid
  rw [encodeChar]
  generalize c.toNat = n at valid
  simp only [Nat.isValidChar] at valid
  have tail (k : Nat) : (0x80 + k % 0x40).toUInt8.toNat = 0x80 + k % 0x40 := nat_of_byte (by omega)
  have follows (k : Nat) : Follows (0x80 + k % 0x40).toUInt8 := by
    simp only [Follows, tail]
    omega
  by_cases one : n < 0x80
  · have first : n.toUInt8.toNat = n := nat_of_byte (by omega)
    have row := Encoded.one (a := n.toUInt8) (by omega)
    rw [first] at row
    rwa [if_pos one]
  by_cases two : n < 0x800
  · have first : (0xC0 + n / 0x40).toUInt8.toNat = 0xC0 + n / 0x40 := nat_of_byte (by omega)
    have row := Encoded.two (a := (0xC0 + n / 0x40).toUInt8) (by omega) (follows n)
    rw [first, tail] at row
    rw [if_neg one, if_pos two]
    convert row using 1
    omega
  by_cases three : n < 0x10000
  · have first : (0xE0 + n / 0x1000).toUInt8.toNat = 0xE0 + n / 0x1000 := nat_of_byte (by omega)
    have second := tail (n / 0x40)
    have row := Encoded.three (a := (0xE0 + n / 0x1000).toUInt8) (by omega) (follows (n / 0x40))
      (by omega) (by omega) (follows n)
    rw [first, tail, tail] at row
    rw [if_neg one, if_neg two, if_pos three]
    convert row using 1
    omega
  · have first : (0xF0 + n / 0x40000).toUInt8.toNat = 0xF0 + n / 0x40000 := nat_of_byte (by omega)
    have second := tail (n / 0x1000)
    have row := Encoded.four (a := (0xF0 + n / 0x40000).toUInt8) (by omega) (follows (n / 0x1000))
      (by omega) (by omega) (follows (n / 0x40)) (follows n)
    rw [first, tail, tail, tail] at row
    rw [if_neg one, if_neg two, if_neg three]
    convert row using 1
    omega

theorem encode_char_standard (c : Char) : encodeChar c = String.utf8EncodeChar c := by
  have valid : c.toNat.isValidChar := c.valid
  have point : c.val.toNat = c.toNat := rfl
  unfold encodeChar String.utf8EncodeChar
  simp only [point]
  generalize c.toNat = n at valid
  simp only [Nat.isValidChar] at valid
  have tail (k : Nat) : (0x80 + k % 0x40).toUInt8 = UInt8.ofNat (k % 0x40 + 0x80) := by
    rw [Nat.add_comm]
  split
  · rw [if_pos (by omega)]
  split
  · have high : n / 0x40 % 0x20 = n / 0x40 := Nat.mod_eq_of_lt (by omega)
    rw [if_neg (by omega), if_pos (by omega), tail, Nat.add_comm, high]
  split
  · have high : n / 0x1000 % 0x10 = n / 0x1000 := Nat.mod_eq_of_lt (by omega)
    rw [if_neg (by omega), if_neg (by omega), if_pos (by omega), tail, tail, Nat.add_comm, high]
  · have high : n / 0x40000 % 0x8 = n / 0x40000 := Nat.mod_eq_of_lt (by omega)
    rw [if_neg (by omega), if_neg (by omega), if_neg (by omega), tail, tail, tail, Nat.add_comm, high]

theorem encode_standard (text : List Char) : encode text = text.flatMap String.utf8EncodeChar := by
  rw [encode, funext encode_char_standard]

theorem lead_one {a : UInt8} (ascii : a.toNat < 0x80) : lead? a = some ⟨0, 0, 0, a.toNat⟩ := by
  simp only [lead?, if_pos ascii]

theorem lead_two {a : UInt8} (lead : 0xC2 ≤ a.toNat ∧ a.toNat < 0xE0) :
    lead? a = some ⟨1, 0x80, 0xBF, a.toNat - 0xC0⟩ := by
  simp only [lead?]
  rw [if_neg (by omega), if_neg (by omega), if_pos lead.2]

theorem lead_three {a : UInt8} (lead : 0xE0 ≤ a.toNat ∧ a.toNat < 0xF0) :
    lead? a = some ⟨2, if a.toNat = 0xE0 then 0xA0 else 0x80,
      if a.toNat = 0xED then 0x9F else 0xBF, a.toNat - 0xE0⟩ := by
  simp only [lead?]
  rw [if_neg (by omega), if_neg (by omega), if_neg (by omega)]
  split
  · rename_i first
    simp [first]
  split
  · rename_i surrogates
    simp [surrogates]
  · rw [if_pos lead.2]

theorem lead_four {a : UInt8} (lead : 0xF0 ≤ a.toNat ∧ a.toNat < 0xF5) :
    lead? a = some ⟨3, if a.toNat = 0xF0 then 0x90 else 0x80,
      if a.toNat = 0xF4 then 0x8F else 0xBF, a.toNat - 0xF0⟩ := by
  simp only [lead?]
  rw [if_neg (by omega), if_neg (by omega), if_neg (by omega), if_neg (by omega), if_neg (by omega),
    if_neg (by omega)]
  split
  · rename_i first
    simp [first]
  split
  · rename_i middle
    rw [if_neg (by omega)]
  · rename_i first middle
    have last : a.toNat = 0xF4 := by omega
    simp [last]

theorem lead_none {a : UInt8} (outside : 0x80 ≤ a.toNat ∧ a.toNat < 0xC2 ∨ 0xF5 ≤ a.toNat) :
    lead? a = none := by
  simp only [lead?]
  rcases outside with tail | large
  · rw [if_neg (by omega), if_pos tail.2]
  · rw [if_neg (by omega), if_neg (by omega), if_neg (by omega), if_neg (by omega),
      if_neg (by omega), if_neg (by omega), if_neg (by omega), if_neg (by omega), if_neg (by omega)]

theorem lead_cases {a : UInt8} {l : Lead} (lead : lead? a = some l) :
    (a.toNat < 0x80 ∧ l = ⟨0, 0, 0, a.toNat⟩) ∨
    ((0xC2 ≤ a.toNat ∧ a.toNat < 0xE0) ∧ l = ⟨1, 0x80, 0xBF, a.toNat - 0xC0⟩) ∨
    ((0xE0 ≤ a.toNat ∧ a.toNat < 0xF0) ∧
      l = ⟨2, if a.toNat = 0xE0 then 0xA0 else 0x80, if a.toNat = 0xED then 0x9F else 0xBF,
        a.toNat - 0xE0⟩) ∨
    ((0xF0 ≤ a.toNat ∧ a.toNat < 0xF5) ∧
      l = ⟨3, if a.toNat = 0xF0 then 0x90 else 0x80, if a.toNat = 0xF4 then 0x8F else 0xBF,
        a.toNat - 0xF0⟩) := by
  by_cases one : a.toNat < 0x80
  · exact .inl ⟨one, Option.some.inj (lead.symm.trans (lead_one one))⟩
  by_cases two : 0xC2 ≤ a.toNat ∧ a.toNat < 0xE0
  · exact .inr (.inl ⟨two, Option.some.inj (lead.symm.trans (lead_two two))⟩)
  by_cases three : 0xE0 ≤ a.toNat ∧ a.toNat < 0xF0
  · exact .inr (.inr (.inl ⟨three, Option.some.inj (lead.symm.trans (lead_three three))⟩))
  by_cases four : 0xF0 ≤ a.toNat ∧ a.toNat < 0xF5
  · exact .inr (.inr (.inr ⟨four, Option.some.inj (lead.symm.trans (lead_four four))⟩))
  · rw [lead_none (by omega)] at lead
    cases lead

attribute [local simp] decodeFrom

theorem decode_lead {a : UInt8} {l : Lead} (lead : lead? a = some l) (more : l.following ≠ 0)
    (position : Nat) (rest : List UInt8) :
    decodeFrom position none (a :: rest) =
      decodeFrom (position + 1) (some ⟨[a], l.bits, l.following, l.lo, l.hi⟩) rest := by
  simp [lead, more]

theorem decode_ascii {a : UInt8} (ascii : a.toNat < 0x80) (position : Nat) (rest : List UInt8) :
    decodeFrom position none (a :: rest) =
      (decodeFrom (position + 1) none rest).map (Char.ofNat a.toNat :: ·) := by
  simp [lead_one ascii]

theorem decode_more {p : Pending} {b : UInt8} (within : p.lo ≤ b.toNat ∧ b.toNat ≤ p.hi)
    (more : p.due ≠ 1) (position : Nat) (rest : List UInt8) :
    decodeFrom position (some p) (b :: rest) =
      decodeFrom (position + 1)
        (some ⟨p.read ++ [b], p.bits * 0x40 + (b.toNat - 0x80), p.due - 1, 0x80, 0xBF⟩) rest := by
  simp [within, more]

theorem decode_last {p : Pending} {b : UInt8} (within : p.lo ≤ b.toNat ∧ b.toNat ≤ p.hi)
    (last : p.due = 1) (position : Nat) (rest : List UInt8) :
    decodeFrom position (some p) (b :: rest) =
      (decodeFrom (position + 1) none rest).map
        (Char.ofNat (p.bits * 0x40 + (b.toNat - 0x80)) :: ·) := by
  simp [within, last]

theorem decode_encoded {bytes : List UInt8} {n : Nat} (encoded : Encoded bytes n) (position : Nat)
    (rest : List UInt8) :
    decodeFrom position none (bytes ++ rest) =
      (decodeFrom (position + bytes.length) none rest).map (Char.ofNat n :: ·) := by
  cases encoded with
  | one ascii => exact decode_ascii ascii position rest
  | two lead second =>
    simp only [List.cons_append, List.nil_append]
    rw [decode_lead (lead_two lead) (by simp), decode_last]
    · rfl
    · exact second
    · rfl
  | three lead second short scalar third =>
    simp only [List.cons_append, List.nil_append]
    rw [decode_lead (lead_three lead) (by simp), decode_more, decode_last]
    · rfl
    · exact third
    · rfl
    · simp only [Follows] at second ⊢
      split <;> split <;> omega
    · simp
  | four lead second short scalar third fourth =>
    simp only [List.cons_append, List.nil_append]
    rw [decode_lead (lead_four lead) (by simp), decode_more, decode_more, decode_last]
    · rfl
    · exact fourth
    · rfl
    · exact third
    · simp
    · simp only [Follows] at second ⊢
      split <;> split <;> omega
    · simp

theorem decode_from_encode (position : Nat) (text : List Char) :
    decodeFrom position none (encode text) = .ok text := by
  induction text generalizing position with
  | nil => rfl
  | cons c text ih =>
    have whole : encode (c :: text) = encodeChar c ++ encode text := rfl
    rw [whole, decode_encoded (encoded_char c), ih, Char.ofNat_toNat]
    rfl

def Completes (lo hi : Nat) : Nat → List UInt8 → Prop
  | 0, bytes => bytes = []
  | _ + 1, [] => False
  | due + 1, b :: rest => (lo ≤ b.toNat ∧ b.toNat ≤ hi) ∧ Completes 0x80 0xBF due rest

theorem completes_succ {lo hi due : Nat} {bytes : List UInt8} :
    Completes lo hi (due + 1) bytes ↔
      ∃ b rest, bytes = b :: rest ∧ (lo ≤ b.toNat ∧ b.toNat ≤ hi) ∧
        Completes 0x80 0xBF due rest := by
  cases bytes with
  | nil => simp [Completes]
  | cons b rest => simp [Completes]

theorem completes_exists {lo hi : Nat} (ordered : lo ≤ hi) (small : hi < 0x100) (due : Nat) :
    ∃ bytes, Completes lo hi due bytes := by
  induction due generalizing lo hi with
  | zero => exact ⟨[], rfl⟩
  | succ due ih =>
    obtain ⟨rest, later⟩ : ∃ rest, Completes 0x80 0xBF due rest := ih (by omega) (by omega)
    have first : lo.toUInt8.toNat = lo := nat_of_byte (by omega)
    exact ⟨lo.toUInt8 :: rest, ⟨by omega, by omega⟩, later⟩

theorem encoded_iff_lead (a : UInt8) (rest : List UInt8) :
    (∃ n, Encoded (a :: rest) n) ↔
      ∃ l, lead? a = some l ∧ Completes l.lo l.hi l.following rest := by
  constructor
  · rintro ⟨n, encoded⟩
    cases encoded with
    | one ascii => exact ⟨_, lead_one ascii, rfl⟩
    | two lead second => exact ⟨_, lead_two lead, second, rfl⟩
    | three lead second short scalar third =>
      refine ⟨_, lead_three lead, ?_, third, rfl⟩
      simp only [Follows] at second ⊢
      split <;> split <;> omega
    | four lead second short scalar third fourth =>
      refine ⟨_, lead_four lead, ?_, third, fourth, rfl⟩
      simp only [Follows] at second ⊢
      split <;> split <;> omega
  · rintro ⟨l, lead, completes⟩
    rcases lead_cases lead with ⟨one, rfl⟩ | ⟨two, rfl⟩ | ⟨three, rfl⟩ | ⟨four, rfl⟩
    · cases completes
      exact ⟨_, .one one⟩
    · obtain ⟨b, rest, rfl, second, rfl⟩ := completes_succ.mp completes
      exact ⟨_, .two two second⟩
    · obtain ⟨b, rest, rfl, second, later⟩ := completes_succ.mp completes
      obtain ⟨c, rest, rfl, third, rfl⟩ := completes_succ.mp later
      simp only at second
      refine ⟨_, .three three ?_ ?_ ?_ third⟩
      · simp only [Follows]
        split at second <;> split at second <;> omega
      · intro first
        rw [if_pos first] at second
        exact second.1
      · intro surrogates
        rw [if_pos surrogates] at second
        exact second.2
    · obtain ⟨b, rest, rfl, second, later⟩ := completes_succ.mp completes
      obtain ⟨c, rest, rfl, third, later⟩ := completes_succ.mp later
      obtain ⟨d, rest, rfl, fourth, rfl⟩ := completes_succ.mp later
      simp only at second
      refine ⟨_, .four four ?_ ?_ ?_ third fourth⟩
      · simp only [Follows]
        split at second <;> split at second <;> omega
      · intro first
        rw [if_pos first] at second
        exact second.1
      · intro last
        rw [if_pos last] at second
        exact second.2

theorem lead_range {a : UInt8} {l : Lead} (lead : lead? a = some l) :
    l.lo ≤ l.hi ∧ l.hi < 0x100 := by
  rcases lead_cases lead with ⟨_, rfl⟩ | ⟨_, rfl⟩ | ⟨_, rfl⟩ | ⟨_, rfl⟩
  · simp
  · simp
  · simp only
    split <;> split <;> omega
  · simp only
    split <;> split <;> omega

def LedByCharacter (bytes : List UInt8) : Prop :=
  ∃ row n tail, Encoded row n ∧ bytes = row ++ tail

/-- A character begun that the bytes do not complete is a fault where it begins. It is an end that came
    too soon if more bytes could complete it. -/
theorem pending_stuck {lo hi due : Nat} {bytes : List UInt8} (read : List UInt8) (bits position : Nat)
    (stuck : ∀ front tail, bytes = front ++ tail → ¬ Completes lo hi (due + 1) front)
    (ordered : lo ≤ hi) (small : hi < 0x100) :
    ∃ fault, decodeFrom position (some ⟨read, bits, due + 1, lo, hi⟩) bytes = .error fault ∧
      fault.start = position - read.length ∧
      (fault.cause = .unexpectedEnd ↔ ∃ more, Completes lo hi (due + 1) (bytes ++ more)) := by
  induction bytes generalizing lo hi due read bits position with
  | nil => exact ⟨_, rfl, rfl, fun _ => completes_exists ordered small (due + 1), fun _ => rfl⟩
  | cons b rest ih =>
    by_cases within : lo ≤ b.toNat ∧ b.toNat ≤ hi
    · cases due with
      | zero => exact absurd ⟨within, rfl⟩ (stuck [b] rest rfl)
      | succ due =>
        have later : ∀ front tail, rest = front ++ tail → ¬ Completes 0x80 0xBF (due + 1) front := by
          intro front tail eq completes
          exact stuck (b :: front) tail (by rw [eq]; rfl) ⟨within, completes⟩
        obtain ⟨fault, failed, start, cause⟩ := ih (read ++ [b]) (bits * 0x40 + (b.toNat - 0x80))
          (position + 1) later (by omega) (by omega)
        refine ⟨fault, ?_, ?_, ?_⟩
        · rw [decode_more within (by simp)]
          exact failed
        · rw [start, List.length_append]
          simp only [List.length_singleton]
          omega
        · rw [cause]
          constructor
          · rintro ⟨more, completes⟩
            exact ⟨more, within, completes⟩
          · rintro ⟨more, completes⟩
            exact ⟨more, completes.2⟩
    · refine ⟨⟨position - read.length, read, .invalidContinuation⟩, ?_, rfl, ?_⟩
      · simp [within]
      · constructor
        · rintro ⟨⟩
        · rintro ⟨more, first, _⟩
          exact absurd first within

theorem decode_stuck {a : UInt8} {rest : List UInt8} (stuck : ¬ LedByCharacter (a :: rest))
    (position : Nat) :
    ∃ fault, decodeFrom position none (a :: rest) = .error fault ∧ fault.start = position ∧
      (fault.cause = .unexpectedEnd ↔ ∃ more n, Encoded (a :: (rest ++ more)) n) := by
  simp only [encoded_iff_lead]
  cases lead : lead? a with
  | none =>
    refine ⟨⟨position, [a], .invalidStart⟩, ?_, rfl, ?_⟩
    · simp [lead]
    · simp
  | some l =>
    have range := lead_range lead
    have short : ∀ front tail, rest = front ++ tail → ¬ Completes l.lo l.hi l.following front := by
      intro front tail eq completes
      obtain ⟨n, encoded⟩ := (encoded_iff_lead a front).mpr ⟨l, lead, completes⟩
      exact stuck ⟨a :: front, n, tail, encoded, by rw [eq]; rfl⟩
    obtain ⟨following, lo, hi, bits⟩ := l
    cases following with
    | zero => exact absurd rfl (short [] rest rfl)
    | succ due =>
      obtain ⟨fault, failed, start, cause⟩ :=
        pending_stuck [a] bits (position + 1) short range.1 range.2
      refine ⟨fault, ?_, start, ?_⟩
      · rw [decode_lead lead (by simp)]
        exact failed
      · simp [cause]

theorem decode_ok_encoded {position : Nat} {a : UInt8} {rest : List UInt8} {text : List Char}
    (read : decodeFrom position none (a :: rest) = .ok text) : LedByCharacter (a :: rest) := by
  by_contra stuck
  obtain ⟨fault, failed, _⟩ := decode_stuck stuck position
  rw [read] at failed
  cases failed

theorem encode_of_decode_from {position : Nat} {bytes : List UInt8} {text : List Char}
    (read : decodeFrom position none bytes = .ok text) : encode text = bytes := by
  -- On the length, as each step takes off a whole character.
  induction h : bytes.length using Nat.strongRecOn generalizing position bytes text with
  | ind k ih =>
    cases bytes with
    | nil =>
      cases read
      rfl
    | cons a rest =>
      obtain ⟨first, n, tail, encoded, whole⟩ := decode_ok_encoded read
      rw [whole, decode_encoded encoded] at read
      cases later : decodeFrom (position + first.length) none tail with
      | error fault => rw [later] at read; cases read
      | ok text' =>
        rw [later] at read
        cases read
        have shorter : tail.length < k := by
          have length := congrArg List.length whole
          rw [h, List.length_append] at length
          have nonempty := encoded_nonempty encoded
          omega
        have front := encode_char_of_encoded encoded
        rw [whole, ← ih _ shorter later rfl, ← front]
        rfl

theorem decode_eq_ok_iff (bytes : List UInt8) (text : List Char) :
    decode bytes = .ok text ↔ encode text = bytes :=
  ⟨encode_of_decode_from, fun written => written ▸ decode_from_encode 0 text⟩

theorem encode_inj {text text' : List Char} (same : encode text = encode text') : text = text' :=
  Except.ok.inj (((decode_eq_ok_iff _ text).mpr rfl).symm.trans
    ((decode_eq_ok_iff _ text').mpr same.symm))

end LineLint.Text
