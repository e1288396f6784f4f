import LineLint.Json.Printer
import LineLint.Proofs.Json.Reading
import LineLint.Proofs.Text.Utf8

/- What is printed for a value spells that value, in ASCII. So reading undoes printing. -/
namespace LineLint.Json

section Texts

theorem hex_digit_spelled (n : Nat) : HexDigit (hexDigit n) (n % 16) :=
  ⟨Nat.mod_lt n (by decide), .inl rfl⟩

theorem escaped_unit_spelled {n : Nat} (small : n < 0x10000) : UnitSpelled (escapedUnit n) n := by
  have spelled := UnitSpelled.digits (hex_digit_spelled (n / 0x1000)) (hex_digit_spelled (n / 0x100))
    (hex_digit_spelled (n / 0x10)) (hex_digit_spelled n)
  have value : ((n / 0x1000 % 16 * 16 + n / 0x100 % 16) * 16 + n / 0x10 % 16) * 16 + n % 16 = n := by
    omega
  rwa [value] at spelled

theorem short_escape_listed {c letter : Char} (short : shortEscape? c = some letter) :
    (letter, c) ∈ escapes := by
  have named {n : Nat} (eq : c.toNat = n) : c = Char.ofNat n := by rw [← eq, Char.ofNat_toNat]
  have listed {d l : Char} (same : c = d) (found : some l = some letter) (row : (l, d) ∈ escapes) :
      (letter, c) ∈ escapes := by
    rw [same, ← Option.some.inj found]
    exact row
  unfold shortEscape? at short
  split_ifs at short with quote backslash feed carriage tab back form
  · exact listed quote short (by decide)
  · exact listed backslash short (by decide)
  · exact listed feed short (by decide)
  · exact listed carriage short (by decide)
  · exact listed tab short (by decide)
  · exact listed (named back) short (by decide)
  · exact listed (named form) short (by decide)

theorem escaped_spelled (c : Char) : CharSpelled (escaped c) c := by
  unfold escaped
  split
  · rename_i shown
    simp only [shownPlain, Bool.and_eq_true, decide_eq_true_eq, bne_iff_ne, ne_eq] at shown
    exact .plain shown.1.1.1 shown.1.2 shown.2
  split
  · rename_i letter short
    exact .letter (short_escape_listed short)
  · have valid : c.toNat.isValidChar := c.valid
    simp only [Nat.isValidChar] at valid
    unfold utf16
    split
    · rename_i small
      rw [List.flatMap_singleton]
      exact .unit (escaped_unit_spelled small)
    · rename_i large
      have high := escaped_unit_spelled (n := 0xD800 + (c.toNat - 0x10000) / 0x400) (by omega)
      have low := escaped_unit_spelled (n := 0xDC00 + (c.toNat - 0x10000) % 0x400) (by omega)
      simp only [List.flatMap_cons, List.flatMap_nil, List.append_nil]
      exact .pair high low (by omega) (by omega) (by omega)

theorem escapes_spelled (text : List Char) : TextSpelled (text.flatMap escaped ++ ['"']) text := by
  induction text with
  | nil => exact .done
  | cons c text ih =>
    rw [List.flatMap_cons, List.append_assoc]
    exact .cons (escaped_spelled c) ih

end Texts

section Numbers

theorem to_digits_head {n : Nat} (positive : 0 < n) : (Nat.toDigits 10 n).head? ≠ some '0' := by
  induction n using Nat.strongRecOn with
  | ind n ih =>
    rw [Nat.toDigits_eq_if (by decide)]
    split
    · rintro zero
      have digit := Nat.digitChar_eq_zero.mp (Option.some.inj zero)
      omega
    · rename_i large
      obtain ⟨first, more, digits⟩ :=
        List.exists_cons_of_ne_nil (Nat.toDigits_ne_nil (n := n / 10) (b := 10))
      have smaller := ih (n / 10) (by omega) (by omega)
      rw [digits] at smaller ⊢
      exact smaller

theorem to_digits_whole (n : Nat) : Whole (Nat.toDigits 10 n) := by
  refine ⟨⟨Nat.toDigits_ne_nil, fun c => Nat.isDigit_of_mem_toDigits (by decide) (by decide)⟩, ?_⟩
  intro zero
  rcases Nat.eq_zero_or_pos n with rfl | positive
  · rfl
  · exact absurd zero (to_digits_head positive)

theorem to_digits_value (n : Nat) : digitsValue (Nat.toDigits 10 n) = n :=
  Nat.ofDigitChars_ten_toDigits

theorem integer_signed (n : Int) :
    ∃ sign negative, SignSpelled sign negative ∧ sign ≠ ['+'] ∧
      writeInteger n = sign ++ Nat.toDigits 10 n.natAbs ∧ withSign negative n.natAbs = n := by
  unfold writeInteger
  split
  · rename_i below
    exact ⟨['-'], true, .minus, by decide, rfl, by simp only [withSign, if_true]; omega⟩
  · rename_i above
    exact ⟨[], false, .absent, by decide, rfl, by simp [withSign]; omega⟩

theorem write_integer_spelled (n : Int) : NumberSpelled (writeInteger n) (.integer n) := by
  obtain ⟨sign, negative, signed, noPlus, written, value⟩ := integer_signed n
  have spelled := NumberSpelled.integer signed noPlus (to_digits_whole n.natAbs)
  rwa [to_digits_value, value, ← written] at spelled

theorem write_decimal_spelled (d : Decimal) : NumberSpelled (writeDecimal d) (.decimal d) := by
  obtain ⟨sign, negative, signed, _, written, value⟩ := integer_signed d.exponent
  have power := PowerSpelled.letter (.inl rfl) signed (to_digits_whole d.exponent.natAbs).1
  have front : SignSpelled (if d.negative then ['-'] else []) d.negative := by
    cases d.negative
    · exact .absent
    · exact .minus
  have noPlus : (if d.negative then ['-'] else []) ≠ ['+'] := by cases d.negative <;> decide
  have spelled := NumberSpelled.decimal front noPlus (to_digits_whole d.digits) .absent power
    (.inr (by simp))
  have whole : Decimal.ofParts d.negative (Nat.toDigits 10 d.digits) [] d.exponent = d := by
    simp [Decimal.ofParts, to_digits_value]
  rw [to_digits_value, value, Option.getD_some, whole, ← written] at spelled
  rw [writeDecimal, List.append_assoc]
  exact spelled

end Numbers

section Values

theorem new_line_blanks (level : Nat) : Blanks (newLine level) := by
  intro c member
  rcases List.mem_cons.mp member with rfl | indent
  · exact .inr (.inl rfl)
  · exact .inl (List.eq_of_mem_replicate indent)

theorem no_blanks : Blanks [] := by
  intro c member
  cases member

theorem one_blank : Blanks [' '] := by
  intro c member
  exact .inl (List.mem_singleton.mp member)

mutual

theorem write_spelled (level : Nat) : ∀ v : Json, Spelled (v.write level) (.value v)
  | .null => .null
  | .bool true => .true
  | .bool false => .false
  | .integer n => .number (write_integer_spelled n)
  | .decimal d => .number (write_decimal_spelled d)
  | .text s => .text (escapes_spelled s.toList)
  | .array [] => .noItems no_blanks
  | .array (item :: items) =>
      .array (write_items_spelled level items (write_spelled (level + 1) item))
  | .object [] => .noFields no_blanks
  | .object ((name, value) :: fields) => by
      have fields := write_fields_spelled level fields name (write_spelled (level + 1) value)
      simpa [write, List.append_assoc] using Spelled.object fields

theorem write_items_spelled (level : Nat) :
    ∀ (items : List Json) {v : Json} {cs : List Char}, Spelled cs (.value v) →
      Spelled (newLine (level + 1) ++ cs ++ writeItems level items) (.items (v :: items))
  | [], v, cs, spelled => by
      have last := Spelled.padded (new_line_blanks (level + 1)) spelled (new_line_blanks level)
      simpa [writeItems] using Spelled.lastItem last
  | item :: items, v, cs, spelled => by
      have later := write_items_spelled level items (write_spelled (level + 1) item)
      have first := Spelled.padded (new_line_blanks (level + 1)) spelled no_blanks
      simpa [writeItems] using Spelled.item first later

theorem write_fields_spelled (level : Nat) :
    ∀ (fields : List (String × Json)) (name : String) {v : Json} {cs : List Char},
      Spelled cs (.value v) →
      Spelled (newLine (level + 1) ++ writeText name ++ ':' :: ' ' :: cs ++ writeFields level fields)
        (.fields ((name, v) :: fields))
  | [], name, v, cs, spelled => by
      have named := NameSpelled.mk (new_line_blanks (level + 1)) (escapes_spelled name.toList) no_blanks
      have last := Spelled.padded one_blank spelled (new_line_blanks level)
      simpa [writeFields, writeText] using Spelled.lastField named last
  | (next, value) :: fields, name, v, cs, spelled => by
      have named := NameSpelled.mk (new_line_blanks (level + 1)) (escapes_spelled name.toList) no_blanks
      have first := Spelled.padded one_blank spelled no_blanks
      have later := write_fields_spelled level fields next (write_spelled (level + 1) value)
      simpa [writeFields, writeText] using Spelled.field named first later

end

end Values

section Ascii

def Ascii (cs : List Char) : Prop := ∀ c ∈ cs, c.toNat < 0x80

theorem ascii_append {first second : List Char} :
    Ascii (first ++ second) ↔ Ascii first ∧ Ascii second := by
  simp only [Ascii, List.mem_append, or_imp, forall_and]

theorem ascii_cons {c : Char} {cs : List Char} : Ascii (c :: cs) ↔ c.toNat < 0x80 ∧ Ascii cs := by
  simp only [Ascii, List.forall_mem_cons]

theorem ascii_nil : Ascii [] := by
  intro c member
  cases member

theorem hex_digit_ascii (n : Nat) : (hexDigit n).toNat < 0x80 := by
  have table : ∀ d < 16, (Nat.digitChar d).toNat < 0x80 := by decide
  exact table (n % 16) (Nat.mod_lt n (by decide))

theorem escaped_unit_ascii (n : Nat) : Ascii (escapedUnit n) := by
  simp [escapedUnit, ascii_cons, ascii_nil, hex_digit_ascii]

theorem escaped_ascii (c : Char) : Ascii (escaped c) := by
  unfold escaped
  split
  · rename_i shown
    simp only [shownPlain, Bool.and_eq_true, decide_eq_true_eq] at shown
    exact ascii_cons.mpr ⟨by omega, ascii_nil⟩
  split
  · rename_i letter short
    have table : ∀ e ∈ escapes, e.1.toNat < 0x80 := by decide
    have small := table _ (short_escape_listed short)
    exact ascii_cons.mpr ⟨by decide, ascii_cons.mpr ⟨small, ascii_nil⟩⟩
  · intro d member
    obtain ⟨n, _, inner⟩ := List.mem_flatMap.mp member
    exact escaped_unit_ascii n d inner

theorem write_text_ascii (s : String) : Ascii (writeText s) := by
  rw [writeText, ascii_cons, ascii_append]
  refine ⟨by decide, ?_, by simp [ascii_cons, ascii_nil]⟩
  intro d member
  obtain ⟨c, _, inner⟩ := List.mem_flatMap.mp member
  exact escaped_ascii c d inner

theorem to_digits_ascii (n : Nat) : Ascii (Nat.toDigits 10 n) := by
  intro c member
  have digit := Nat.isDigit_of_mem_toDigits (by decide) (by decide) member
  simp only [Char.isDigit, Bool.and_eq_true, decide_eq_true_eq] at digit
  have small : c.val.toNat ≤ 57 := digit.2
  show c.val.toNat < 0x80
  omega

theorem write_integer_ascii (n : Int) : Ascii (writeInteger n) := by
  unfold writeInteger
  split
  · exact ascii_cons.mpr ⟨by decide, to_digits_ascii _⟩
  · exact to_digits_ascii _

theorem write_decimal_ascii (d : Decimal) : Ascii (writeDecimal d) := by
  rw [writeDecimal, ascii_append, ascii_append, ascii_cons]
  refine ⟨⟨?_, to_digits_ascii _⟩, by decide, write_integer_ascii _⟩
  split
  · exact ascii_cons.mpr ⟨by decide, ascii_nil⟩
  · exact ascii_nil

theorem new_line_ascii (level : Nat) : Ascii (newLine level) := by
  intro c member
  rcases new_line_blanks level c member with rfl | rfl | rfl | rfl <;> decide

mutual

theorem write_ascii (level : Nat) : ∀ v : Json, Ascii (v.write level)
  | .null => by simp [write, ascii_cons, ascii_nil]
  | .bool true => by simp [write, ascii_cons, ascii_nil]
  | .bool false => by simp [write, ascii_cons, ascii_nil]
  | .integer n => write_integer_ascii n
  | .decimal d => write_decimal_ascii d
  | .text s => write_text_ascii s
  | .array [] => by simp [write, ascii_cons, ascii_nil]
  | .array (item :: items) => by
      simp [write, ascii_cons, ascii_append, new_line_ascii, write_ascii (level + 1) item,
        write_items_ascii level items]
  | .object [] => by simp [write, ascii_cons, ascii_nil]
  | .object ((name, value) :: fields) => by
      simp [write, ascii_cons, ascii_append, new_line_ascii, write_text_ascii,
        write_ascii (level + 1) value, write_fields_ascii level fields]

theorem write_items_ascii (level : Nat) : ∀ items : List Json, Ascii (writeItems level items)
  | [] => by simp [writeItems, ascii_cons, ascii_append, ascii_nil, new_line_ascii]
  | item :: items => by
      simp [writeItems, ascii_cons, ascii_append, new_line_ascii, write_ascii (level + 1) item,
        write_items_ascii level items]

theorem write_fields_ascii (level : Nat) :
    ∀ fields : List (String × Json), Ascii (writeFields level fields)
  | [] => by simp [writeFields, ascii_cons, ascii_append, ascii_nil, new_line_ascii]
  | (name, value) :: fields => by
      simp [writeFields, ascii_cons, ascii_append, new_line_ascii, write_text_ascii,
        write_ascii (level + 1) value, write_fields_ascii level fields]

end

end Ascii

theorem pretty_spelled (v : Json) : Spelled v.pretty.toList (.padded v) := by
  have spelled := Spelled.padded no_blanks (write_spelled 0 v) no_blanks
  rw [List.append_nil] at spelled
  rw [pretty, String.toList_ofList]
  exact spelled

theorem pretty_ascii (v : Json) : Ascii v.pretty.toList := by
  rw [pretty, String.toList_ofList]
  exact write_ascii 0 v

theorem read_pretty (v : Json) : read v.pretty = some v := read_spelled (pretty_spelled v)

end LineLint.Json
