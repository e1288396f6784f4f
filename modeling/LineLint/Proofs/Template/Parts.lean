import LineLint.Proofs.Template.Placeholder

/- Templates written out of parts: texts, whose braces are doubled, and placeholders for names. Where a
   doubled brace stands beside that of a placeholder the two are told apart from the left, so that a
   template is read as the parts it was written from. -/
namespace LineLint.Template

def beginsIdentifier (c : Char) : Bool := c.isAlpha || c == '_'

def continuesIdentifier (c : Char) : Bool := c.isAlphanum || c == '_'

/-- A name of ASCII letters, digits and underscores that does not begin with a digit. -/
structure Identifier where
  first : Char
  others : List Char
  begins : beginsIdentifier first = true
  continues : ∀ c ∈ others, continuesIdentifier c = true

def Identifier.name (i : Identifier) : List Char := i.first :: i.others

inductive Part where
  | text (cs : List Char)
  | placeholder (i : Identifier)

def doubled (c : Char) : List Char := if c = '{' ∨ c = '}' then [c, c] else [c]

namespace Part

def written : Part → List Char
  | .text cs => cs.flatMap doubled
  | .placeholder i => '{' :: (i.name ++ ['}'])

def shown (values : Values) : Part → List Char
  | .text cs => cs
  | .placeholder i =>
      match values.lookup (String.ofList i.name) with
      | some value => value.toList
      | none => []

def isText : Part → Bool
  | .text _ => true
  | .placeholder _ => false

def pieces : Part → List Piece
  | .text cs => cs.map .plain
  | .placeholder i => [.field (Template.placeholder i.name)]

end Part

def written (parts : List Part) : List Char := parts.flatMap Part.written

def shown (values : Values) (parts : List Part) : List Char := parts.flatMap (Part.shown values)

theorem begins_continues {c : Char} (begins : beginsIdentifier c = true) :
    continuesIdentifier c = true := by
  simp only [beginsIdentifier, continuesIdentifier, Char.isAlphanum, Bool.or_eq_true] at begins ⊢
  exact begins.imp_left Or.inl

def marks : List Char := ['{', '}', ':', '!', '[', ']', '.']

theorem identifier_unmarked (i : Identifier) : ∀ c ∈ i.name, c ∉ marks := by
  intro c member mark
  have letter : continuesIdentifier c = true := by
    rcases List.mem_cons.mp member with rfl | later
    · exact begins_continues i.begins
    · exact i.continues c later
  simp only [marks, List.mem_cons, List.not_mem_nil, or_false] at mark
  rcases mark with rfl | rfl | rfl | rfl | rfl | rfl | rfl <;> cases letter

theorem identifier_no_digit {c : Char} (begins : beginsIdentifier c = true) :
    Text.decimalDigit? c = none := by
  have letter : 65 ≤ c.toNat ∧ c.toNat ≤ 122 := by
    rcases Bool.or_eq_true_iff.mp begins with alphabetic | underscore
    · rcases Bool.or_eq_true_iff.mp alphabetic with upper | lower
      · have upperCase : 'A'.val ≤ c.val ∧ c.val ≤ 'Z'.val := of_decide_eq_true upper
        obtain ⟨first, last⟩ := upperCase
        have low : 'A'.toNat ≤ c.toNat := UInt32.le_iff_toNat_le.mp first
        have high : c.toNat ≤ 'Z'.toNat := UInt32.le_iff_toNat_le.mp last
        exact ⟨low, Nat.le_trans high (by decide)⟩
      · obtain ⟨first, last⟩ := Bool.and_eq_true_iff.mp lower
        have low : 'a'.toNat ≤ c.toNat := UInt32.le_iff_toNat_le.mp (of_decide_eq_true first)
        have high : c.toNat ≤ 'z'.toNat := UInt32.le_iff_toNat_le.mp (of_decide_eq_true last)
        exact ⟨Nat.le_trans (by decide) low, high⟩
    · rw [beq_iff_eq.mp underscore]
      decide
  have apart : ∀ first ∈ Text.zeroDigits, first + 10 ≤ 65 ∨ 122 < first := by decide
  rw [Text.decimalDigit?, Option.map_eq_none_iff, List.find?_eq_none]
  intro first member
  have := apart first member
  simp only [Bool.and_eq_true, decide_eq_true_eq]
  omega

theorem identifier_is_name (i : Identifier) : IsName i.name := by
  constructor
  · show (Text.decimalDigit? i.first).isNone = true
    rw [identifier_no_digit i.begins]
    rfl
  · rw [List.all_eq_true]
    intro c member
    have unmarked := identifier_unmarked i c member
    simp only [marks, List.mem_cons, not_or] at unmarked
    simp [isStep, unmarked]

theorem read_name_closed {name : List Char} (unmarked : ∀ c ∈ name, c ∉ marks)
    (rest : List Char) : readName false (name ++ '}' :: rest) = .ok (name, '}', rest) := by
  induction name with
  | nil => rfl
  | cons c name ih =>
    obtain ⟨first, others⟩ := List.forall_mem_cons.mp unmarked
    simp only [marks, List.mem_cons, not_or] at first
    have outside : (c == '[') = false := by simp [first]
    have goesOn : ¬ (c = '}' ∨ c = ':' ∨ c = '!') := by simp [first]
    rw [List.cons_append, readName, if_neg Bool.false_ne_true, if_neg first.1, if_neg goesOn,
      outside, ih others]
    rfl

def readBefore (front : List Piece) (rest : List Piece × Option Fault) :
    List Piece × Option Fault :=
  (front ++ rest.1, rest.2)

theorem character_read (fuel : Nat) (c : Char) (rest : List Char) :
    piecesWith (fuel + 1) (doubled c ++ rest) = readBefore [.plain c] (piecesWith fuel rest) := by
  by_cases opening : c = '{'
  · subst opening
    rfl
  · by_cases closing : c = '}'
    · subst closing
      rfl
    · have single : doubled c = [c] := by simp [doubled, opening, closing]
      rw [single, List.singleton_append, piecesWith]
      · rfl
      -- no rule for a brace applies
      all_goals simp_all

theorem text_read (fuel : Nat) (cs rest : List Char) :
    piecesWith (cs.length + fuel) (cs.flatMap doubled ++ rest) =
      readBefore (cs.map .plain) (piecesWith fuel rest) := by
  induction cs with
  | nil =>
    rw [List.length_nil, Nat.zero_add]
    rfl
  | cons c cs ih =>
    have more : (c :: cs).length + fuel = cs.length + fuel + 1 := by
      rw [List.length_cons]
      omega
    rw [more, List.flatMap_cons, List.append_assoc, character_read, ih]
    rfl

theorem placeholder_read (fuel : Nat) (i : Identifier) (rest : List Char) :
    piecesWith (fuel + 1) ('{' :: (i.name ++ '}' :: rest)) =
      readBefore [.field (placeholder i.name)] (piecesWith fuel rest) := by
  have unmarked := identifier_unmarked i
  have field : readField (i.name ++ '}' :: rest) = .ok (placeholder i.name, rest) := by
    rw [readField, read_name_closed unmarked]
    rfl
  have first : i.first ≠ '{' := by
    intro brace
    apply unmarked i.first List.mem_cons_self
    rw [brace]
    exact List.mem_cons_self
  rw [piecesWith, field]
  · rfl
  · intro more eq
    exact first (List.cons.inj eq).1
  · intro eq
    cases eq

theorem part_read (fuel : Nat) (part : Part) (rest : List Char) :
    piecesWith (part.pieces.length + fuel) (part.written ++ rest) =
      readBefore part.pieces (piecesWith fuel rest) := by
  cases part with
  | text cs =>
    rw [Part.pieces, List.length_map]
    exact text_read fuel cs rest
  | placeholder i =>
    have whole : (Part.placeholder i).written ++ rest = '{' :: (i.name ++ '}' :: rest) := by
      simp [Part.written]
    rw [whole, Part.pieces, List.length_singleton, Nat.add_comm]
    exact placeholder_read fuel i rest

theorem parts_read (fuel : Nat) (parts : List Part) :
    piecesWith ((parts.flatMap Part.pieces).length + fuel) (written parts) =
      (parts.flatMap Part.pieces, none) := by
  induction parts with
  | nil =>
    cases fuel <;> rfl
  | cons part parts ih =>
    have step := part_read ((parts.flatMap Part.pieces).length + fuel) part (written parts)
    rw [ih] at step
    rw [written, List.flatMap_cons, List.flatMap_cons, List.length_append, Nat.add_assoc]
    exact step

theorem doubled_length (c : Char) : 1 ≤ (doubled c).length := by
  unfold doubled
  split
  · exact Nat.le_succ 1
  · exact Nat.le_refl 1

theorem part_pieces_length (part : Part) : part.pieces.length ≤ part.written.length := by
  cases part with
  | text cs =>
    rw [Part.pieces, Part.written, List.length_map]
    induction cs with
    | nil => exact Nat.le_refl 0
    | cons c cs ih =>
      have := doubled_length c
      rw [List.flatMap_cons, List.length_append, List.length_cons]
      omega
  | placeholder i => exact Nat.succ_le_succ (Nat.zero_le _)

theorem pieces_length_le (parts : List Part) :
    (parts.flatMap Part.pieces).length ≤ (written parts).length := by
  induction parts with
  | nil => exact Nat.le_refl 0
  | cons part parts ih =>
    have := part_pieces_length part
    rw [written, List.flatMap_cons, List.flatMap_cons, List.length_append, List.length_append]
    exact Nat.add_le_add this ih

theorem pieces_written (parts : List Part) :
    pieces (written parts) = (parts.flatMap Part.pieces, none) := by
  obtain ⟨fuel, enough⟩ := Nat.exists_eq_add_of_le (pieces_length_le parts)
  rw [pieces, enough]
  exact parts_read fuel parts

end LineLint.Template
