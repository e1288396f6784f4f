import LineLint.Proofs.Text.Numbers
import LineLint.Text.Ansi
import Mathlib.Data.List.Forall2

/- Texts with styles in them, and what is left without the sequences that set these. What stands in no
   style and what stands in one are put together from left to right, so a text that is written in parts
   shows what its parts show. -/
namespace LineLint.Text

/-- A text, and the text without the sequences that set a style: the escape character, a bracket,
    parameters and an `m`. There is no other escape character in it. -/
inductive Unstyles : List Char → List Char → Prop
  | done : Unstyles [] []
  | kept {c : Char} {text plain : List Char} (other : c ≠ escape) (later : Unstyles text plain) :
      Unstyles (c :: text) (c :: plain)
  | leftOut {parameters text plain : List Char}
      (inner : ∀ c ∈ parameters, isSequenceParameter c = true) (later : Unstyles text plain) :
      Unstyles (escape :: '[' :: (parameters ++ 'm' :: text)) plain

theorem unstyles_append {text text' plain plain' : List Char} (first : Unstyles text plain)
    (second : Unstyles text' plain') : Unstyles (text ++ text') (plain ++ plain') := by
  induction first with
  | done => exact second
  | kept other later ih => exact .kept other ih
  | leftOut inner later ih =>
    simp only [List.cons_append, List.append_assoc]
    exact .leftOut inner ih

theorem unstyles_plain {text : List Char} (plain : escape ∉ text) : Unstyles text text := by
  induction text with
  | nil => exact .done
  | cons c text ih =>
    simp only [List.mem_cons, not_or] at plain
    exact .kept (Ne.symm plain.1) (ih plain.2)

section Stripped

theorem parameter_not_letter {c : Char} (parameter : isSequenceParameter c = true) :
    c.isAlpha = false := by
  rw [Bool.eq_false_iff]
  intro letter
  have cased : c.isUpper = true ∨ c.isLower = true := (Bool.or_eq_true _ _).mp letter
  have high : 'A'.val ≤ c.val := by
    rcases cased with upper | lower
    · exact (of_decide_eq_true upper).1
    · have first : 'a'.val ≤ c.val := of_decide_eq_true (Bool.and_eq_true_iff.mp lower).1
      exact Nat.le_trans (show 'A'.val ≤ 'a'.val by decide) first
  simp only [isSequenceParameter, Bool.or_eq_true, beq_iff_eq] at parameter
  rcases parameter with (rfl | rfl) | digit
  · cases letter
  · cases letter
  · have low : c.val ≤ '9'.val := of_decide_eq_true (Bool.and_eq_true_iff.mp digit).2
    exact absurd (Nat.le_trans high low) (by decide)

theorem inside_parameters {parameters : List Char}
    (inner : ∀ c ∈ parameters, isSequenceParameter c = true) (text : List Char) :
    withoutSequences true (parameters ++ 'm' :: text) = withoutSequences false text := by
  induction parameters with
  | nil => rfl
  | cons c parameters ih =>
    obtain ⟨own, others⟩ := List.forall_mem_cons.mp inner
    rw [List.cons_append, withoutSequences, if_pos rfl, parameter_not_letter own]
    exact ih others

theorem starts_style {parameters : List Char}
    (inner : ∀ c ∈ parameters, isSequenceParameter c = true) (text : List Char) :
    startsSequence (escape :: '[' :: (parameters ++ 'm' :: text)) = true := by
  have after : (parameters ++ 'm' :: text).dropWhile isSequenceParameter = 'm' :: text := by
    rw [List.dropWhile_append_of_pos inner, List.dropWhile_cons_of_neg (by decide)]
  rw [startsSequence, after]
  rfl

theorem unstyles_stripped {text plain : List Char} (unstyles : Unstyles text plain) :
    withoutSequences false text = plain := by
  induction unstyles with
  | done => rfl
  | @kept c text plain other later ih =>
    have ordinary : ¬ startsSequence (c :: text) = true := by
      unfold startsSequence
      split
      · rename_i a rest same
        rw [← (List.cons.inj same).1]
        simp [other]
      · simp
    rw [withoutSequences, if_neg Bool.false_ne_true, if_neg ordinary, ih]
  | leftOut inner later ih =>
    rw [withoutSequences, if_neg Bool.false_ne_true, if_pos (starts_style inner _), withoutSequences,
      if_pos rfl]
    exact (inside_parameters inner _).trans ih

end Stripped

def Plain (s : String) : Prop := escape ∉ s.toList

instance (s : String) : Decidable (Plain s) := inferInstanceAs (Decidable (escape ∉ s.toList))

/-- The second text is what the first shows, whose styles are set by sequences in it. -/
def Shows (text plain : String) : Prop := Unstyles text.toList plain.toList

variable {a b a' b' : String}

theorem plain_append : Plain (a ++ b) ↔ Plain a ∧ Plain b := by
  simp only [Plain, String.toList_append, List.mem_append, not_or]

theorem plain_number (n : Nat) : Plain (toString n) := by
  rw [Plain, Nat.toString_eq_ofList_toDigits, String.toList_ofList]
  exact symbol_not_digit (by decide) n

theorem shows_append (first : Shows a b) (second : Shows a' b') : Shows (a ++ a') (b ++ b') := by
  unfold Shows
  rw [String.toList_append, String.toList_append]
  exact unstyles_append first second

theorem shows_itself (plain : Plain a) : Shows a a := unstyles_plain plain

theorem style_sequence_unstyles {code : List Char}
    (inner : ∀ c ∈ code, isSequenceParameter c = true) : Unstyles (styleSequence code) [] :=
  .leftOut inner .done

theorem shows_styled (style : Style) (plain : Plain a) :
    Shows (styled true style a) (styled false style a) := by
  have set : Unstyles (styleSequence style.code) [] := by
    refine style_sequence_unstyles ?_
    cases style <;> simp [Style.code, isSequenceParameter, Char.isDigit]
  have reset : Unstyles (styleSequence ['0']) [] :=
    style_sequence_unstyles (by simp [isSequenceParameter, Char.isDigit])
  have whole := unstyles_append (unstyles_append set (unstyles_plain plain)) reset
  unfold Shows
  simpa [styled] using whole

theorem shows_intercalate {separator : String} (plain : Plain separator) {texts plains : List String}
    (shows : List.Forall₂ Shows texts plains) :
    Shows (separator.intercalate texts) (separator.intercalate plains) := by
  induction shows with
  | nil => exact .done
  | cons first rest ih =>
    cases rest with
    | nil => simpa using first
    | cons second more =>
      rw [String.intercalate_cons_cons, String.intercalate_cons_cons]
      exact shows_append (shows_append first (shows_itself plain)) ih

theorem strip_shows (shows : Shows a b) : stripSequences a = b := by
  rw [stripSequences, unstyles_stripped shows, String.ofList_toList]

end LineLint.Text
