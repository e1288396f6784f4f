import LineLint.Proofs.Text.Utf8

/- Where decoding stops. Bytes that are no text are a text as far as their first fault and no further, and
   the cause of the fault tells whether more bytes could have made them one. -/
namespace LineLint.Text

def IsUtf8 (bytes : List UInt8) : Prop :=
  ∃ text : List Char, text.flatMap String.utf8EncodeChar = bytes

theorem is_utf8_iff (bytes : List UInt8) : IsUtf8 bytes ↔ ∃ text, encode text = bytes := by
  simp only [IsUtf8, encode_standard]

theorem encode_append (first second : List Char) :
    encode (first ++ second) = encode first ++ encode second := by
  simp only [encode, List.flatMap_append]

theorem decode_from_append (position : Nat) (text : List Char) (rest : List UInt8) :
    decodeFrom position none (encode text ++ rest) =
      (decodeFrom (position + (encode text).length) none rest).map (text ++ ·) := by
  induction text generalizing position with
  | nil =>
    show decodeFrom position none rest = (decodeFrom position none rest).map (List.append [])
    cases decodeFrom position none rest <;> rfl
  | cons c text ih =>
    have whole : encode (c :: text) = encodeChar c ++ encode text := rfl
    rw [whole, List.append_assoc, decode_encoded (encoded_char c), ih, Char.ofNat_toNat,
      List.length_append, Nat.add_assoc]
    cases decodeFrom (position + ((encodeChar c).length + (encode text).length)) none rest <;> rfl

theorem is_utf8_append (text : List Char) (rest : List UInt8) :
    IsUtf8 (encode text ++ rest) ↔ IsUtf8 rest := by
  simp only [is_utf8_iff]
  constructor
  · rintro ⟨whole, eq⟩
    have read := decode_from_encode 0 whole
    rw [eq, decode_from_append] at read
    cases later : decodeFrom (0 + (encode text).length) none rest with
    | ok found => exact ⟨found, encode_of_decode_from later⟩
    | error fault =>
      rw [later] at read
      cases read
  · rintro ⟨more, rfl⟩
    exact ⟨text ++ more, encode_append text more⟩

theorem led_of_is_utf8 {bytes : List UInt8} (valid : IsUtf8 bytes) (nonempty : bytes ≠ []) :
    LedByCharacter bytes := by
  obtain ⟨text, rfl⟩ := (is_utf8_iff bytes).mp valid
  cases text with
  | nil => exact absurd rfl nonempty
  | cons c text => exact ⟨encodeChar c, c.toNat, encode text, encoded_char c, rfl⟩

theorem text_and_rest (bytes : List UInt8) :
    ∃ text rest, bytes = encode text ++ rest ∧ ¬ LedByCharacter rest := by
  -- On the length, as a whole character is taken off at each step.
  induction h : bytes.length using Nat.strongRecOn generalizing bytes with
  | ind k ih =>
    by_cases led : LedByCharacter bytes
    · obtain ⟨row, n, tail, encoded, rfl⟩ := led
      have shorter : tail.length < k := by
        have nonempty := encoded_nonempty encoded
        rw [List.length_append] at h
        omega
      obtain ⟨text, rest, rfl, stuck⟩ := ih _ shorter tail rfl
      refine ⟨Char.ofNat n :: text, rest, ?_, stuck⟩
      have first : encode (Char.ofNat n :: text) = encodeChar (Char.ofNat n) ++ encode text := rfl
      rw [first, encode_char_of_encoded encoded, List.append_assoc]
    · exact ⟨[], bytes, rfl, led⟩

theorem extends_iff_encoded {a : UInt8} {rest : List UInt8} (stuck : ¬ LedByCharacter (a :: rest)) :
    (∃ more, IsUtf8 (a :: rest ++ more)) ↔ ∃ more n, Encoded (a :: (rest ++ more)) n := by
  constructor
  · rintro ⟨more, valid⟩
    obtain ⟨row, n, tail, encoded, eq⟩ := led_of_is_utf8 valid (by simp)
    rcases List.append_eq_append_iff.mp eq with ⟨between, rfl, _⟩ | ⟨between, front, _⟩
    · exact ⟨between, n, encoded⟩
    · exact absurd ⟨row, n, between, encoded, front⟩ stuck
  · rintro ⟨more, n, encoded⟩
    refine ⟨more, (is_utf8_iff _).mpr ⟨[Char.ofNat n], ?_⟩⟩
    rw [encode, List.flatMap_singleton, encode_char_of_encoded encoded]
    rfl

/-- A fault stands where the longest part in front that is a text ends. Its cause is an end that came too
    soon if and only if more bytes could make a text of the whole. -/
theorem decode_fault {bytes : List UInt8} {fault : DecodeFault} (failed : decode bytes = .error fault) :
    fault.start < bytes.length ∧ IsUtf8 (bytes.take fault.start) ∧
    (∀ length, fault.start < length → length ≤ bytes.length → ¬ IsUtf8 (bytes.take length)) ∧
    (fault.cause = .unexpectedEnd ↔ ∃ more, IsUtf8 (bytes ++ more)) := by
  obtain ⟨text, rest, rfl, stuck⟩ := text_and_rest bytes
  rw [decode, decode_from_append] at failed
  cases rest with
  | nil => cases failed
  | cons a rest =>
    obtain ⟨found, read, start, cause⟩ := decode_stuck stuck (0 + (encode text).length)
    rw [read] at failed
    cases failed
    rw [Nat.zero_add] at start
    rw [start, cause]
    refine ⟨?_, (is_utf8_iff _).mpr ⟨text, ?_⟩, ?_, ?_⟩
    · simp
    · rw [List.take_left']
      rfl
    · intro length longer within valid
      rw [List.length_append] at within
      obtain ⟨more, rfl⟩ := Nat.exists_eq_add_of_lt longer
      rw [Nat.add_assoc, List.take_length_add_append, is_utf8_append] at valid
      obtain ⟨row, n, tail, encoded, eq⟩ := led_of_is_utf8 valid (by simp)
      refine stuck ⟨row, n, tail ++ (a :: rest).drop (more + 1), encoded, ?_⟩
      rw [← List.append_assoc, ← eq, List.take_append_drop]
    · rw [← extends_iff_encoded stuck]
      simp only [List.append_assoc, is_utf8_append]

end LineLint.Text
