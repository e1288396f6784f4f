import Mathlib.Data.List.Basic

/- Numbers at the front of a text: what they begin with and where they end. -/
namespace LineLint.Text

theorem first_apart {c : Char} {front front' rest rest' : List Char} (clean : c ∉ front)
    (clean' : c ∉ front') (same : front ++ c :: rest = front' ++ c :: rest') :
    front = front' ∧ rest = rest' := by
  induction front generalizing front' with
  | nil =>
    cases front' with
    | nil => exact ⟨rfl, (List.cons.inj same).2⟩
    | cons d more =>
      cases (List.cons.inj same).1
      exact absurd List.mem_cons_self clean'
  | cons d more ih =>
    cases front' with
    | nil =>
      cases (List.cons.inj same).1
      exact absurd List.mem_cons_self clean
    | cons d' more' =>
      obtain ⟨head, tail⟩ := List.cons.inj same
      obtain ⟨rfl, after⟩ := ih (List.not_mem_of_not_mem_cons clean)
        (List.not_mem_of_not_mem_cons clean') tail
      exact ⟨by rw [head], after⟩

theorem symbol_not_digit {c : Char} (symbol : c.isDigit = false) (n : Nat) :
    c ∉ Nat.toDigits 10 n := by
  intro member
  rw [Nat.isDigit_of_mem_toDigits (by decide) (by decide) member] at symbol
  cases symbol

theorem digits_head (n : Nat) (rest : List Char) {c : Char} (symbol : c.isDigit = false) :
    (Nat.toDigits 10 n ++ rest).head? ≠ some c := by
  obtain ⟨first, more, digits⟩ := List.exists_cons_of_ne_nil (Nat.toDigits_ne_nil (n := n) (b := 10))
  rw [digits]
  rintro ⟨⟩
  exact symbol_not_digit symbol n (digits ▸ List.mem_cons_self)

theorem number_head (n : Nat) (rest : String) {c : Char} (symbol : c.isDigit = false) :
    (toString n ++ rest).toList.head? ≠ some c := by
  rw [String.toList_append, Nat.toString_eq_ofList_toDigits, String.toList_ofList]
  exact digits_head n rest.toList symbol

theorem digits_apart {c : Char} (symbol : c.isDigit = false) {n m : Nat} {a b : List Char}
    (same : Nat.toDigits 10 n ++ c :: a = Nat.toDigits 10 m ++ c :: b) : n = m ∧ a = b := by
  obtain ⟨digits, after⟩ := first_apart (symbol_not_digit symbol n) (symbol_not_digit symbol m) same
  have value := congrArg (fun cs => Nat.ofDigitChars 10 cs 0) digits
  rw [Nat.ofDigitChars_ten_toDigits, Nat.ofDigitChars_ten_toDigits] at value
  exact ⟨value, after⟩

theorem number_to_list (n : Nat) (after : String) :
    (toString n ++ (" " ++ after)).toList = Nat.toDigits 10 n ++ ' ' :: after.toList := by
  simp

theorem number_apart {n m : Nat} {a b : String}
    (same : toString n ++ (" " ++ a) = toString m ++ (" " ++ b)) : n = m ∧ a = b := by
  have chars := congrArg String.toList same
  rw [number_to_list, number_to_list] at chars
  obtain ⟨value, after⟩ := digits_apart rfl chars
  exact ⟨value, String.toList_inj.mp after⟩

end LineLint.Text
