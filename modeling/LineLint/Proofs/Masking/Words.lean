import LineLint.Proofs.Masking.Columns
import LineLint.Text.Word

/- Words survive masking whole: where a word begins in the masked line, the same word stands in the
   raw line, and goes on no further there. Only a delimiter can stand at the border of what is
   hidden, and no delimiter is a word character. -/
namespace LineLint.Masker
open LineLint.Text

theorem paren_not_word {c : Char} (isParen : c = '(' ∨ c = ')') : isWord c = false := by
  rcases isParen with rfl | rfl <;> decide

theorem in_code_outside {m : Masker} {c : Construct} {outer : List Construct} (inCode : m.InCode)
    (inside : m.stack = c :: outer) : c = .interpolation := by
  rcases inCode with empty | ⟨outer', within⟩
  · rw [empty] at inside; cases inside
  · rw [within] at inside; cases inside; rfl

theorem takes_in_code {m : Masker} {raw : List Char} {s : MaskStep} (takes : m.Takes raw s)
    (inCode : m.InCode) :
    (∃ c, raw = c :: s.rest ∧ s.shown = [c] ∧ s.after.InCode) ∨
      raw.takeWhile isWord = [] ∧ ∀ more, (s.shown ++ more).takeWhile isWord = [] := by
  cases takes with
  | lineComment => exact .inr ⟨rfl, fun _ => rfl⟩
  | openComment => exact .inr ⟨rfl, fun _ => rfl⟩
  | openTextBlock => exact .inr ⟨rfl, fun _ => rfl⟩
  | openString => exact .inr ⟨rfl, fun _ => rfl⟩
  | @countParen c rest outer n counts inside =>
    exact .inl ⟨c, rfl, rfl, .inr ⟨outer, inside⟩⟩
  | closeInterpolation inside counted isParen =>
    refine .inr ⟨?_, fun _ => rfl⟩
    rw [List.takeWhile_cons, paren_not_word isParen]
    rfl
  | @plain c => exact .inl ⟨c, rfl, rfl, inCode⟩
  | nestComment inside => cases in_code_outside inCode inside
  | closeNested inside => cases in_code_outside inCode inside
  | closeComment inside => cases in_code_outside inCode inside
  | commentText inside => cases in_code_outside inCode inside
  | openInterpolation inside isLiteral => cases in_code_outside inCode inside; cases isLiteral
  | escape inside isLiteral => cases in_code_outside inCode inside; cases isLiteral
  | loneBackslash inside isLiteral => cases in_code_outside inCode inside; cases isLiteral
  | closeString inside => cases in_code_outside inCode inside
  | closeTextBlock inside => cases in_code_outside inCode inside
  | literalText inside isLiteral => cases in_code_outside inCode inside; cases isLiteral

theorem takes_shows {m : Masker} {raw : List Char} {s : MaskStep} (takes : m.Takes raw s) :
    m.InCode ∧ (∃ c, s.shown = [c]) ∨ ∀ c ∈ s.shown, c ∈ [' ', '/', '*', '"'] := by
  cases takes with
  | lineComment =>
    refine .inr fun c member => ?_
    simp only [blanks, List.mem_cons, List.mem_map] at member
    rcases member with rfl | rfl | ⟨_, _, rfl⟩ <;> decide
  | @countParen c rest outer n counts inside => exact .inl ⟨.inr ⟨outer, inside⟩, c, rfl⟩
  | @plain c rest inCode => exact .inl ⟨inCode, c, rfl⟩
  | _ => exact .inr (by simp)

theorem mark_not_word {c : Char} (mark : c ∈ [' ', '/', '*', '"']) : isWord c = false := by
  simp only [List.mem_cons, List.not_mem_nil, or_false] at mark
  rcases mark with rfl | rfl | rfl | rfl <;> decide

theorem runs_in_code {m last : Masker} {raw shown : List Char} (runs : Runs m raw shown last)
    (inCode : m.InCode) : raw.takeWhile isWord = shown.takeWhile isWord := by
  induction runs with
  | done => rfl
  | step takes _ ih =>
    rcases takes_in_code takes inCode with ⟨c, eq, shows, after⟩ | ⟨none, hidden⟩
    · rw [eq, shows, List.singleton_append, List.takeWhile_cons, List.takeWhile_cons, ih after]
    · rw [none, hidden]

theorem runs_drop {m last : Masker} {raw shown : List Char} (runs : Runs m raw shown last)
    {n : Nat} (word : (shown.drop n).takeWhile isWord ≠ []) :
    ∃ inner, inner.InCode ∧ Runs inner (raw.drop n) (shown.drop n) last := by
  induction runs generalizing n with
  | done => simp at word
  | @step m last raw shown s takes rest ih =>
    obtain ⟨taken, eq, veils⟩ := takes_veils takes
    rcases Nat.lt_or_ge n s.shown.length with here | beyond
    · have begins : isWord s.shown[n] := by
        rw [List.drop_append_of_le_length (Nat.le_of_lt here), List.drop_eq_getElem_cons here,
          List.cons_append, List.takeWhile_cons] at word
        by_contra other
        simp [other] at word
      rcases takes_shows takes with ⟨inCode, c, shows⟩ | marks
      · have first : n = 0 := by rw [shows, List.length_singleton] at here; omega
        subst first
        exact ⟨m, inCode, .step takes rest⟩
      · rw [mark_not_word (marks _ (List.getElem_mem here))] at begins
        cases begins
    · obtain ⟨k, rfl⟩ := Nat.exists_eq_add_of_le beyond
      rw [List.drop_length_add_append] at word ⊢
      rw [eq, ← veils.length_eq, List.drop_length_add_append]
      exact ih word

theorem runs_word {m last : Masker} {raw shown : List Char} (runs : Runs m raw shown last)
    {n : Nat} (word : (shown.drop n).takeWhile isWord ≠ []) :
    (raw.drop n).takeWhile isWord = (shown.drop n).takeWhile isWord := by
  obtain ⟨inner, inCode, within⟩ := runs_drop runs word
  exact runs_in_code within inCode

end LineLint.Masker
