import LineLint.Json.Reader
import LineLint.Proofs.Json.Grammar
import Mathlib.Data.List.DropRight

/- The reader reads every text that the grammar spells, as the value that it spells. So no text spells two
   values. -/
namespace LineLint.Json

section Texts

attribute [local simp] readText

theorem hex_value {c : Char} {n : Nat} (digit : HexDigit c n) : hexValue? c = some n := by
  obtain ⟨small, lower⟩ := digit
  have table : ∀ n < 16, hexValue? (Nat.digitChar n) = some n ∧
      hexValue? (Nat.digitChar n).toUpper = some n := by decide
  rcases lower with rfl | rfl
  · exact (table n small).1
  · exact (table n small).2

theorem unit_value {cs : List Char} {n : Nat} (spelled : UnitSpelled cs n) :
    ∃ a b c d, cs = ['\\', 'u', a, b, c, d] ∧ unit? a b c d = some n := by
  cases spelled with
  | @digits a b c d i j k l first second third fourth =>
    refine ⟨a, b, c, d, rfl, ?_⟩
    simp [unit?, hex_value first, hex_value second, hex_value third, hex_value fourth]

theorem unescaped_listed {l c : Char} (listed : (l, c) ∈ escapes) : unescaped? l = some c := by
  have table : ∀ e ∈ escapes, unescaped? e.1 = some e.2 := by decide
  exact table (l, c) listed

variable {c : Char} {rest : List Char}

theorem read_text_plain (printed : 0x20 ≤ c.toNat) (noQuote : c ≠ '"') (noBackslash : c ≠ '\\') :
    readText (c :: rest) = withFirst c (readText rest) := by
  rw [readText]
  · have accepted : ¬ (c = '\\' ∨ c.toNat < 0x20) := by
      rintro (backslash | control)
      · exact noBackslash backslash
      · omega
    rw [if_neg accepted]
  all_goals simp_all

theorem read_text_letter {l : Char} (escape : unescaped? l = some c) :
    readText ('\\' :: l :: rest) = withFirst c (readText rest) := by
  have noUnit : l ≠ 'u' := by
    rintro rfl
    cases escape
  rw [readText]
  · rw [escape]
  all_goals simp_all

theorem read_text_unit {i j k l : Char} {n : Nat} (value : unit? i j k l = some n)
    (notHigh : isHigh n = false) (notLow : isLow n = false) :
    readText ('\\' :: 'u' :: i :: j :: k :: l :: rest) =
      withFirst (Char.ofNat n) (readText rest) := by
  by_cases again : ∃ e f g h more, rest = '\\' :: 'u' :: e :: f :: g :: h :: more
  · obtain ⟨e, f, g, h, more, rfl⟩ := again
    rw [readText, value]
    cases second : unit? e f g h with
    | none =>
      -- What follows is no text, so neither is the whole.
      by_cases third : ∃ e' f' g' h' more', more = '\\' :: 'u' :: e' :: f' :: g' :: h' :: more'
      · obtain ⟨e', f', g', h', more', rfl⟩ := third
        simp only [readText, second]
        rfl
      · rw [readText, second]
        · rfl
        · intro e' f' g' h' more' eq
          exact third ⟨e', f', g', h', more', eq⟩
    | some low => simp [notHigh, notLow]
  · rw [readText, value]
    · simp [notHigh, notLow]
    · intro e f g h more eq
      exact again ⟨e, f, g, h, more, eq⟩

theorem read_text_pair {i j k l e f g h : Char} {high low : Nat} (first : unit? i j k l = some high)
    (second : unit? e f g h = some low) (isHigh' : isHigh high = true) (isLow' : isLow low = true) :
    readText ('\\' :: 'u' :: i :: j :: k :: l :: '\\' :: 'u' :: e :: f :: g :: h :: rest) =
      withFirst (joinUnits high low) (readText rest) := by
  rw [readText, first, second]
  simp [isHigh', isLow']

theorem read_text_char {front : List Char} (spelled : CharSpelled front c) :
    readText (front ++ rest) = withFirst c (readText rest) := by
  cases spelled with
  | plain printed noQuote noBackslash => exact read_text_plain printed noQuote noBackslash
  | letter listed => exact read_text_letter (unescaped_listed listed)
  | unit spelled =>
    obtain ⟨i, j, k, l, rfl, value⟩ := unit_value spelled
    have valid : c.toNat.isValidChar := c.valid
    simp only [Nat.isValidChar] at valid
    have notHigh : isHigh c.toNat = false := by simp [isHigh]; omega
    have notLow : isLow c.toNat = false := by simp [isLow]; omega
    have read : readText ('\\' :: 'u' :: i :: j :: k :: l :: rest) = _ :=
      read_text_unit value notHigh notLow
    rw [Char.ofNat_toNat] at read
    exact read
  | @pair _ _ _ high low leads follows highRange lowRange joined =>
    obtain ⟨i, j, k, l, rfl, first⟩ := unit_value leads
    obtain ⟨e, f, g, h, rfl, second⟩ := unit_value follows
    have isHigh' : isHigh high = true := by simp [isHigh]; omega
    have isLow' : isLow low = true := by simp [isLow]; omega
    have read : readText ('\\' :: 'u' :: i :: j :: k :: l :: '\\' :: 'u' :: e :: f :: g :: h :: rest) =
      _ := read_text_pair first second isHigh' isLow'
    rw [joinUnits, ← joined, Char.ofNat_toNat] at read
    exact read

theorem read_text_spelled {cs text : List Char} (spelled : TextSpelled cs text) :
    readText (cs ++ rest) = some (text, rest) := by
  induction spelled with
  | done => simp
  | cons first later ih =>
    rw [List.append_assoc, read_text_char first, ih]
    rfl

end Texts

section Numbers

variable {rest : List Char}

def NoDigit (rest : List Char) : Prop := ∀ c ∈ rest.head?, c.isDigit = false

def Ends (rest : List Char) : Prop :=
  ∀ c ∈ rest.head?, c.isDigit = false ∧ c ≠ '.' ∧ c ≠ 'e' ∧ c ≠ 'E'

theorem ends_no_digit (ends : Ends rest) : NoDigit rest := fun c head => (ends c head).1

theorem read_digits {digits : List Char} (some' : Digits digits) (stop : NoDigit rest) :
    readDigits (digits ++ rest) = some (digits, rest) := by
  have taken : (digits ++ rest).takeWhile Char.isDigit = digits := by
    rw [List.takeWhile_append_of_pos some'.2]
    cases rest with
    | nil => simp
    | cons c rest => simp [stop c rfl]
  have left : (digits ++ rest).dropWhile Char.isDigit = rest := by
    rw [List.dropWhile_append_of_pos some'.2]
    cases rest with
    | nil => rfl
    | cons c rest => simp [stop c rfl]
  simp [readDigits, taken, left, some'.1]

theorem digits_head {digits : List Char} (some' : Digits digits) :
    ∃ c more, digits = c :: more ∧ c.isDigit = true := by
  obtain ⟨nonempty, all⟩ := some'
  obtain ⟨c, more, rfl⟩ := List.exists_cons_of_ne_nil nonempty
  exact ⟨c, more, rfl, all c List.mem_cons_self⟩

theorem digit_ne {c d : Char} (digit : c.isDigit = true) (other : d.isDigit = false) : c ≠ d := by
  rintro rfl
  rw [digit] at other
  cases other

theorem read_fraction {point fraction : List Char} (pointed : FractionSpelled point fraction)
    (stop : NoDigit rest) (noPoint : rest.head? ≠ some '.') :
    readFraction (point ++ rest) = some (fraction, rest) := by
  cases pointed with
  | absent =>
    rw [List.nil_append]
    unfold readFraction
    split
    · exact absurd rfl noPoint
    · rfl
  | point nonempty => exact read_digits nonempty stop

theorem read_sign {sign digits : List Char} {negative : Bool} (signed : SignSpelled sign negative)
    (nonempty : Digits digits) : readSign (sign ++ (digits ++ rest)) = (negative, digits ++ rest) := by
  cases signed with
  | absent =>
    obtain ⟨c, more, rfl, digit⟩ := digits_head nonempty
    have noMinus : c ≠ '-' := digit_ne digit rfl
    have noPlus : c ≠ '+' := digit_ne digit rfl
    simp [readSign, noMinus, noPlus]
  | plus => rfl
  | minus => rfl

theorem read_power {letter : List Char} {power : Option Int} (powered : PowerSpelled letter power)
    (ends : Ends rest) : readPower (letter ++ rest) = some (power, rest) := by
  cases powered with
  | absent =>
    cases rest with
    | nil => rfl
    | cons c rest =>
      obtain ⟨_, _, lower, upper⟩ := ends c rfl
      simp [readPower, lower, upper]
  | @letter e sign digits negative letter signed nonempty =>
    rw [List.cons_append, List.append_assoc, readPower, if_pos letter, read_sign signed nonempty]
    simp only [read_digits nonempty (ends_no_digit ends), Option.map_some]
    cases negative <;> rfl

theorem power_stops {letter : List Char} {power : Option Int} (powered : PowerSpelled letter power)
    (ends : Ends rest) : NoDigit (letter ++ rest) ∧ (letter ++ rest).head? ≠ some '.' := by
  cases powered with
  | absent =>
    refine ⟨ends_no_digit ends, fun point => ?_⟩
    exact (ends '.' point).2.1 rfl
  | letter letter signed nonempty =>
    rcases letter with rfl | rfl
    · exact ⟨by rintro _ ⟨⟩; rfl, by simp⟩
    · exact ⟨by rintro _ ⟨⟩; rfl, by simp⟩

theorem fraction_stops {point fraction : List Char} (pointed : FractionSpelled point fraction)
    (stop : NoDigit rest) : NoDigit (point ++ rest) := by
  cases pointed with
  | absent => exact stop
  | point nonempty =>
    rintro _ ⟨⟩
    rfl

theorem whole_accepted {whole : List Char} (digits : Whole whole) :
    ¬ (whole.length ≠ 1 ∧ whole.head? = some '0') := by
  rintro ⟨several, zero⟩
  rw [digits.2 zero] at several
  exact several rfl

def numberOf (negative : Bool) (whole : List Char) : List Char → Option Int → Json
  | [], none => .integer (signed negative (digitsValue whole))
  | fraction, power => .decimal (.ofParts negative whole fraction (power.getD 0))

theorem number_of_decimal {negative : Bool} {whole fraction : List Char} {power : Option Int}
    (more : fraction ≠ [] ∨ power ≠ none) :
    numberOf negative whole fraction power =
      .decimal (.ofParts negative whole fraction (power.getD 0)) := by
  cases fraction with
  | nil =>
    cases power with
    | none => simp at more
    | some power => rfl
  | cons c fraction => rfl

theorem read_number_parts {sign whole tail fraction more : List Char} {negative : Bool}
    {power : Option Int} (signed : SignSpelled sign negative) (noPlus : sign ≠ ['+'])
    (digits : Whole whole) (stop : NoDigit tail) (fractioned : readFraction tail = some (fraction, more))
    (powered : readPower more = some (power, rest)) :
    readNumber (sign ++ (whole ++ tail)) = some (numberOf negative whole fraction power, rest) := by
  have unsigned := read_digits digits.1 stop
  have accepted := whole_accepted digits
  unfold readNumber
  split
  rename_i negative' digits' opening
  have parts : negative' = negative ∧ digits' = whole ++ tail := by
    cases signed with
    | absent =>
      obtain ⟨c, others, rfl, digit⟩ := digits_head digits.1
      have noMinus : c ≠ '-' := digit_ne digit rfl
      split at opening
      · rename_i eq
        exact absurd (List.cons.inj eq).1 noMinus
      · obtain ⟨rfl, rfl⟩ := Prod.mk.inj opening
        exact ⟨rfl, rfl⟩
    | plus => exact absurd rfl noPlus
    | minus =>
      obtain ⟨rfl, rfl⟩ := Prod.mk.inj opening
      exact ⟨rfl, rfl⟩
  obtain ⟨rfl, rfl⟩ := parts
  simp only [unsigned, Option.bind_eq_bind, Option.bind_some, if_neg accepted, fractioned, powered]
  cases fraction <;> cases power <;> rfl

theorem read_number {cs : List Char} {v : Json} (number : NumberSpelled cs v) (ends : Ends rest) :
    readNumber (cs ++ rest) = some (v, rest) := by
  cases number with
  | @integer sign whole negative signed noPlus digits =>
    have noPoint : rest.head? ≠ some '.' := fun point => (ends '.' point).2.1 rfl
    have stop := ends_no_digit ends
    rw [List.append_assoc, read_number_parts signed noPlus digits stop
      (read_fraction .absent stop noPoint) (read_power .absent ends)]
    rfl
  | @decimal sign whole point fraction letter negative power signed noPlus digits pointed powered more =>
    obtain ⟨stop, noPoint⟩ := power_stops powered ends
    simp only [List.append_assoc]
    rw [read_number_parts signed noPlus digits (fraction_stops pointed stop)
      (read_fraction pointed stop noPoint) (read_power powered ends), number_of_decimal]
    rcases more with nonempty | nonempty
    · cases pointed with
      | absent => exact absurd rfl nonempty
      | point digits => exact .inl digits.1
    · cases powered with
      | absent => exact absurd rfl nonempty
      | letter => exact .inr (by simp)

end Numbers

section Values

attribute [local simp] readValue readItems readFields

variable {rest : List Char}

theorem skip_blanks_append {blanks : List Char} (blank : Blanks blanks) (rest : List Char) :
    skipBlanks (blanks ++ rest) = skipBlanks rest := by
  refine List.dropWhile_append_of_pos ?_
  intro c member
  rcases blank c member with rfl | rfl | rfl | rfl <;> rfl

theorem skip_blanks_cons {c : Char} (symbol : isBlank c = false) :
    skipBlanks (c :: rest) = c :: rest := by
  rw [skipBlanks, List.dropWhile_cons_of_neg (by simp [symbol])]

theorem skip_to_symbol {blanks cs : List Char} {c : Char} (blank : Blanks blanks)
    (symbol : isBlank c = false) : skipBlanks (blanks ++ c :: cs) = c :: cs := by
  rw [skip_blanks_append blank, skip_blanks_cons symbol]

theorem skip_blanks_twice (cs : List Char) : skipBlanks (skipBlanks cs) = skipBlanks cs :=
  List.dropWhile_idempotent isBlank cs

theorem read_value_skip (fuel : Nat) (cs : List Char) :
    readValue fuel (skipBlanks cs) = readValue fuel cs := by
  cases fuel with
  | zero => rfl
  | succ fuel => simp [skip_blanks_twice]

theorem read_items_skip (fuel : Nat) (cs : List Char) :
    readItems fuel (skipBlanks cs) = readItems fuel cs := by
  cases fuel with
  | zero => rfl
  | succ fuel => simp [read_value_skip]

theorem read_fields_skip (fuel : Nat) (cs : List Char) :
    readFields fuel (skipBlanks cs) = readFields fuel cs := by
  cases fuel with
  | zero => rfl
  | succ fuel => simp [skip_blanks_twice]

theorem sign_or_digit_ne {c d : Char} (first : c = '-' ∨ c.isDigit = true) (noSign : d ≠ '-')
    (noDigit : d.isDigit = false) : c ≠ d := by
  rcases first with rfl | digit
  · exact noSign.symm
  · exact digit_ne digit noDigit

theorem sign_or_digit_symbol {c : Char} (first : c = '-' ∨ c.isDigit = true) : isBlank c = false := by
  have noSpace : c ≠ ' ' := sign_or_digit_ne first (by decide) rfl
  have noFeed : c ≠ '\n' := sign_or_digit_ne first (by decide) rfl
  have noReturn : c ≠ '\r' := sign_or_digit_ne first (by decide) rfl
  have noTab : c ≠ '\t' := sign_or_digit_ne first (by decide) rfl
  simp [isBlank, noSpace, noFeed, noReturn, noTab]

theorem number_head {cs : List Char} {v : Json} (number : NumberSpelled cs v) :
    ∃ c more, cs = c :: more ∧ (c = '-' ∨ c.isDigit = true) := by
  have head {sign whole : List Char} {negative : Bool} (signed : SignSpelled sign negative)
      (noPlus : sign ≠ ['+']) (digits : Whole whole) (rest : List Char) :
      ∃ c more, sign ++ (whole ++ rest) = c :: more ∧ (c = '-' ∨ c.isDigit = true) := by
    obtain ⟨c, more, rfl, digit⟩ := digits_head digits.1
    cases signed with
    | absent => exact ⟨c, more ++ rest, rfl, .inr digit⟩
    | plus => exact absurd rfl noPlus
    | minus => exact ⟨'-', c :: more ++ rest, rfl, .inl rfl⟩
  cases number with
  | integer signed noPlus digits =>
    have found := head signed noPlus digits []
    rwa [List.append_nil] at found
  | decimal signed noPlus digits => exact head signed noPlus digits _

def Opens (cs : List Char) : Prop := ∃ c more, cs = c :: more ∧ isBlank c = false ∧ c ≠ ']'

theorem value_opens {cs : List Char} {v : Json} (spelled : Spelled cs (.value v)) : Opens cs := by
  cases spelled with
  | number number =>
    obtain ⟨c, more, rfl, first⟩ := number_head number
    exact ⟨c, more, rfl, sign_or_digit_symbol first, sign_or_digit_ne first (by decide) rfl⟩
  | _ => exact ⟨_, _, rfl, by decide, by decide⟩

theorem padded_opens {cs : List Char} {v : Json} (spelled : Spelled cs (.padded v)) :
    ∃ before more, cs = before ++ more ∧ Blanks before ∧ Opens more := by
  cases spelled with
  | padded blank value blank' =>
    obtain ⟨c, more, rfl, symbol⟩ := value_opens value
    exact ⟨_, _, rfl, blank, c, _, rfl, symbol⟩

theorem padded_nonempty {cs : List Char} {v : Json} (spelled : Spelled cs (.padded v)) :
    0 < cs.length := by
  obtain ⟨before, _, rfl, _, c, more, rfl, _⟩ := padded_opens spelled
  rw [List.length_append, List.length_cons]
  omega

theorem items_open {cs : List Char} {vs : List Json} (spelled : Spelled cs (.items vs))
    (rest more : List Char) : skipBlanks (cs ++ rest) ≠ ']' :: more := by
  have head {item : List Char} {v : Json} (value : Spelled item (.padded v)) (tail : List Char) :
      skipBlanks (item ++ tail) ≠ ']' :: more := by
    obtain ⟨before, _, rfl, blank, c, others, rfl, symbol, open'⟩ := padded_opens value
    rw [List.append_assoc, skip_blanks_append blank, List.cons_append, skip_blanks_cons symbol]
    intro eq
    exact open' (List.cons.inj eq).1
  cases spelled with
  | lastItem value =>
    rw [List.append_assoc]
    exact head value _
  | item value later =>
    rw [List.append_assoc]
    exact head value _

theorem symbol_ends {c : Char} (symbol : c = ',' ∨ c = ']' ∨ c = '\x7d') : Ends (c :: rest) := by
  rintro _ ⟨⟩
  rcases symbol with rfl | rfl | rfl <;> decide

theorem blanks_end {blanks : List Char} (blank : Blanks blanks) (ends : Ends rest) :
    Ends (blanks ++ rest) := by
  cases blanks with
  | nil => exact ends
  | cons c more =>
    rintro _ ⟨⟩
    rcases blank c List.mem_cons_self with rfl | rfl | rfl | rfl <;> decide

theorem read_value_number {fuel : Nat} {c : Char} {cs : List Char} (first : c = '-' ∨ c.isDigit = true) :
    readValue (fuel + 1) (c :: cs) = readNumber (c :: cs) := by
  rw [readValue, skip_blanks_cons (sign_or_digit_symbol first)]
  split
  all_goals try rfl
  all_goals
    rename_i eq
    exact absurd (List.cons.inj eq).1 (sign_or_digit_ne first (by decide) rfl)

theorem read_value_array {fuel : Nat} {cs : List Char} (opened : ∀ more, skipBlanks cs ≠ ']' :: more) :
    readValue (fuel + 1) ('[' :: cs) = (readItems fuel cs).map fun p => (.array p.1, p.2) := by
  rw [readValue, skip_blanks_cons (by decide)]
  simp only [read_items_skip]

theorem read_value_object {fuel : Nat} {cs more : List Char} (opened : skipBlanks cs = '"' :: more) :
    readValue (fuel + 1) ('\x7b' :: cs) = (readFields fuel cs).map fun p => (.object p.1, p.2) := by
  rw [readValue, skip_blanks_cons (by decide)]
  simp only [opened]
  rw [← read_fields_skip fuel cs, opened]
  rfl

theorem read_items_last {fuel : Nat} {cs after more : List Char} {v : Json}
    (read : readValue fuel cs = some (v, after)) (closed : skipBlanks after = ']' :: more) :
    readItems (fuel + 1) cs = some ([v], more) := by
  simp [read, closed]

theorem read_items_cons {fuel : Nat} {cs after more : List Char} {v : Json}
    (read : readValue fuel cs = some (v, after)) (goesOn : skipBlanks after = ',' :: more) :
    readItems (fuel + 1) cs = (readItems fuel more).map fun p => (v :: p.1, p.2) := by
  simp [read, goesOn]

section Fields

variable {fuel : Nat} {name cs after : List Char} {s : String} {v : Json}

theorem name_opens (named : NameSpelled name s) (rest : List Char) :
    ∃ more, skipBlanks (name ++ rest) = '"' :: more := by
  cases named with
  | mk blank text blank' =>
    rw [List.append_assoc, List.cons_append, skip_to_symbol blank (by decide)]
    exact ⟨_, rfl⟩

theorem read_fields_step (named : NameSpelled name s) (read : readValue fuel cs = some (v, after)) :
    (∀ more, skipBlanks after = '\x7d' :: more →
      readFields (fuel + 1) (name ++ cs) = some ([(s, v)], more)) ∧
    ∀ more, skipBlanks after = ',' :: more →
      readFields (fuel + 1) (name ++ cs) =
        (readFields fuel more).map fun p => ((s, v) :: p.1, p.2) := by
  cases named with
  | @mk before text between _ blank text blank' =>
    have colon : skipBlanks (between ++ ':' :: cs) = ':' :: cs := skip_to_symbol blank' (by decide)
    rw [List.append_assoc, List.cons_append, readFields, skip_to_symbol blank (by decide)]
    constructor
    · intro more closed
      simp [List.append_assoc, read_text_spelled text, colon, read, closed]
    · intro more goesOn
      simp [List.append_assoc, read_text_spelled text, colon, read, goesOn]

end Fields

/-- How a piece of text is read, whatever follows it. Every character is two units of fuel. -/
def Reads (cs : List Char) : Part → Prop
  | .value v => ∀ fuel rest, 2 * cs.length ≤ fuel + 2 → Ends rest →
      readValue (fuel + 1) (cs ++ rest) = some (v, rest)
  | .padded v => ∀ fuel rest, 2 * cs.length ≤ fuel + 1 → Ends rest →
      ∃ after, Blanks after ∧ readValue fuel (cs ++ rest) = some (v, after ++ rest)
  | .items vs => ∀ fuel rest, 2 * cs.length ≤ fuel + 2 →
      readItems fuel (cs ++ rest) = some (vs, rest)
  | .fields fs => ∀ fuel rest, 2 * cs.length ≤ fuel + 2 →
      readFields fuel (cs ++ rest) = some (fs, rest)

theorem fields_open {cs : List Char} {fs : List (String × Json)} (spelled : Spelled cs (.fields fs))
    (rest : List Char) : ∃ more, skipBlanks (cs ++ rest) = '"' :: more := by
  cases spelled with
  | lastField named value =>
    rw [List.append_assoc]
    exact name_opens named _
  | field named value later =>
    rw [List.append_assoc]
    exact name_opens named _

theorem reads_before {item : List Char} {v : Json} (reads : Reads item (.padded v)) (fuel : Nat) {c : Char}
    (enough : 2 * item.length ≤ fuel + 1) (symbol : c = ',' ∨ c = ']' ∨ c = '\x7d') (cs : List Char) :
    ∃ after, readValue fuel (item ++ c :: cs) = some (v, after) ∧ skipBlanks after = c :: cs := by
  obtain ⟨after, blank, read⟩ := reads fuel (c :: cs) enough (symbol_ends symbol)
  refine ⟨_, read, skip_to_symbol blank ?_⟩
  rcases symbol with rfl | rfl | rfl <;> decide

theorem spelled_reads {cs : List Char} {part : Part} (spelled : Spelled cs part) : Reads cs part := by
  induction spelled with
  | null =>
    intro fuel rest _ _
    rfl
  | true =>
    intro fuel rest _ _
    rfl
  | false =>
    intro fuel rest _ _
    rfl
  | @number cs v number =>
    intro fuel rest _ ends
    obtain ⟨c, more, rfl, first⟩ := number_head number
    rw [List.cons_append, read_value_number first]
    exact read_number number ends
  | @text cs s text =>
    intro fuel rest _ _
    rw [List.cons_append, readValue, skip_blanks_cons (by decide)]
    simp [read_text_spelled text]
  | @noItems between blank =>
    intro fuel rest _ _
    have closed : skipBlanks (between ++ ']' :: rest) = ']' :: rest := skip_to_symbol blank (by decide)
    rw [List.cons_append, readValue, skip_blanks_cons (by decide)]
    simp [closed]
  | @array cs vs items ih =>
    intro fuel rest enough _
    rw [List.length_cons] at enough
    rw [List.cons_append, read_value_array (items_open items rest), ih fuel rest (by omega)]
    rfl
  | @noFields between blank =>
    intro fuel rest _ _
    have closed : skipBlanks (between ++ '\x7d' :: rest) = '\x7d' :: rest :=
      skip_to_symbol blank (by decide)
    rw [List.cons_append, readValue, skip_blanks_cons (by decide)]
    simp [closed]
  | @object cs fs fields ih =>
    intro fuel rest enough _
    rw [List.length_cons] at enough
    obtain ⟨more, opened⟩ := fields_open fields rest
    rw [List.cons_append, read_value_object opened, ih fuel rest (by omega)]
    rfl
  | @padded before cs after v blank value blank' ih =>
    intro fuel rest enough ends
    obtain ⟨c, more, rfl, _⟩ := value_opens value
    simp only [List.length_append, List.length_cons] at enough
    obtain ⟨fuel, rfl⟩ := Nat.exists_eq_add_one.mpr (show 0 < fuel by omega)
    refine ⟨after, blank', ?_⟩
    rw [← read_value_skip, List.append_assoc, skip_blanks_append blank, read_value_skip,
      List.append_assoc]
    refine ih fuel (after ++ rest) ?_ (blanks_end blank' ends)
    rw [List.length_cons]
    omega
  | @lastItem item v value ih =>
    intro fuel rest enough
    have nonempty := padded_nonempty value
    simp only [List.length_append, List.length_singleton] at enough
    obtain ⟨fuel, rfl⟩ := Nat.exists_eq_add_one.mpr (show 0 < fuel by omega)
    obtain ⟨after, read, closed⟩ := reads_before ih fuel (by omega) (.inr (.inl rfl)) rest
    rw [List.append_assoc]
    exact read_items_last read closed
  | @item item more v vs value later ih ihLater =>
    intro fuel rest enough
    have nonempty := padded_nonempty value
    simp only [List.length_append, List.length_cons] at enough
    obtain ⟨fuel, rfl⟩ := Nat.exists_eq_add_one.mpr (show 0 < fuel by omega)
    obtain ⟨after, read, goesOn⟩ := reads_before ih fuel (by omega) (.inl rfl) (more ++ rest)
    rw [List.append_assoc, List.cons_append, read_items_cons read goesOn, ihLater fuel rest (by omega)]
    rfl
  | @lastField name item s v named value ih =>
    intro fuel rest enough
    have nonempty := padded_nonempty value
    simp only [List.length_append, List.length_singleton] at enough
    obtain ⟨fuel, rfl⟩ := Nat.exists_eq_add_one.mpr (show 0 < fuel by omega)
    obtain ⟨after, read, closed⟩ := reads_before ih fuel (by omega) (.inr (.inr rfl)) rest
    rw [List.append_assoc, List.append_assoc]
    exact (read_fields_step named read).1 rest closed
  | @field name item more s v fs named value later ih ihLater =>
    intro fuel rest enough
    have nonempty := padded_nonempty value
    simp only [List.length_append, List.length_cons] at enough
    obtain ⟨fuel, rfl⟩ := Nat.exists_eq_add_one.mpr (show 0 < fuel by omega)
    obtain ⟨after, read, goesOn⟩ := reads_before ih fuel (by omega) (.inl rfl) (more ++ rest)
    rw [List.append_assoc, List.append_assoc, List.cons_append,
      (read_fields_step named read).2 _ goesOn, ihLater fuel rest (by omega)]
    rfl

end Values

theorem read_spelled {text : String} {v : Json} (spelled : Spelled text.toList (.padded v)) :
    read text = some v := by
  have ends : Ends [] := by
    intro c head
    cases head
  obtain ⟨after, blank, found⟩ :=
    spelled_reads spelled (readFuel text.toList) [] (by rw [readFuel]; omega) ends
  have ended : (skipBlanks after).isEmpty = true := by
    rw [← List.append_nil after, skip_blanks_append blank]
    rfl
  rw [List.append_nil, List.append_nil] at found
  rw [read, found]
  exact if_pos ended

theorem spelled_unique {cs : List Char} {v w : Json} (spelled : Spelled cs (.padded v))
    (spelled' : Spelled cs (.padded w)) : v = w := by
  have text : (String.ofList cs).toList = cs := String.toList_ofList
  have first := read_spelled (text.symm ▸ spelled)
  rw [read_spelled (text.symm ▸ spelled')] at first
  exact (Option.some.inj first).symm

end LineLint.Json
