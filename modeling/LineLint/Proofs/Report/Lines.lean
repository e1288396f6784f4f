import LineLint.Proofs.Report.Agreement
import Mathlib.Data.List.Infix

/- A line tells one violation only. Its place is read from the front, up to the severity, and its rule
   from the end, back to the last mark; the message is what is left between them. -/
namespace LineLint

namespace Text

variable {s t : Char} {front front' back back' more : List Char}

theorem mark_first (other : s ≠ t) (plain : ¬ [s, t] <:+: back)
    (same : s :: t :: back = more ++ s :: t :: back') : more = [] ∧ back = back' := by
  cases more with
  | nil =>
    cases same
    exact ⟨rfl, rfl⟩
  | cons c more =>
    cases more with
    | nil => exact absurd (List.cons.inj (List.cons.inj same).2).1.symm other
    | cons d more =>
      have later : back = more ++ s :: t :: back' := (List.cons.inj (List.cons.inj same).2).2
      exact absurd ⟨more, back', by simp [later]⟩ plain

theorem last_mark_apart (other : s ≠ t) (plain : ¬ [s, t] <:+: back) (plain' : ¬ [s, t] <:+: back')
    (same : front ++ s :: t :: back = front' ++ s :: t :: back') : front = front' ∧ back = back' := by
  rcases List.append_eq_append_iff.mp same with ⟨more, longer, rest⟩ | ⟨more, longer, rest⟩
  · obtain ⟨rfl, alike⟩ := mark_first other plain rest
    exact ⟨by rw [longer, List.append_nil], alike⟩
  · obtain ⟨rfl, alike⟩ := mark_first other plain' rest
    exact ⟨by rw [longer, List.append_nil], alike.symm⟩

end Text

/-- The id of the rule does not hold the mark that stands in front of it. -/
def Violation.Unmarked (v : Violation) : Prop := ¬ [' ', '['] <:+: v.ruleId.toList

instance (v : Violation) : Decidable v.Unmarked :=
  inferInstanceAs (Decidable (¬ _ <:+: _))

section Line

variable {color : Bool} {before : String} {v w : Violation}

def columnChars : Option Nat → List Char
  | none => []
  | some column => Nat.toDigits 10 column ++ [':']

theorem location_chars (v : Violation) :
    v.location.toList = Nat.toDigits 10 v.line ++ ':' :: columnChars v.column := by
  unfold Violation.location columnChars
  cases v.column <;> simp

theorem column_apart {column column' : Option Nat} {a b : List Char}
    (same : columnChars column ++ ' ' :: a = columnChars column' ++ ' ' :: b) :
    column = column' ∧ a = b := by
  cases column with
  | none =>
    cases column' with
    | none => exact ⟨rfl, (List.cons.inj same).2⟩
    | some m =>
      simp only [columnChars, List.append_assoc] at same
      exact absurd (congrArg List.head? same).symm (Text.digits_head m _ rfl)
  | some n =>
    cases column' with
    | none =>
      simp only [columnChars, List.append_assoc] at same
      exact absurd (congrArg List.head? same) (Text.digits_head n _ rfl)
    | some m =>
      simp only [columnChars, List.append_assoc, List.singleton_append] at same
      obtain ⟨rfl, after⟩ := Text.digits_apart rfl same
      exact ⟨rfl, (List.cons.inj after).2⟩

theorem place_apart {a b : String} (same : v.location ++ (" " ++ a) = w.location ++ (" " ++ b)) :
    v.line = w.line ∧ v.column = w.column ∧ a = b := by
  have chars := congrArg String.toList same
  simp only [String.toList_append, location_chars, List.append_assoc, List.cons_append] at chars
  obtain ⟨line, after⟩ := Text.digits_apart rfl chars
  obtain ⟨column, rest⟩ := column_apart after
  exact ⟨line, column, String.toList_inj.mp rest⟩

theorem severity_apart {s t : Severity} {a b : String}
    (same : Text.styled color s.style s.name ++ a = Text.styled color t.style t.name ++ b) :
    s = t ∧ a = b := by
  unfold Text.styled at same
  cases color with
  | false => exact name_apart same
  | true =>
    simp only [if_true, String.append_assoc] at same
    obtain ⟨severity, rest⟩ := name_apart (style_apart same)
    exact ⟨severity, (String.append_right_inj _).mp rest⟩

theorem message_apart (unmarked : v.Unmarked) (unmarked' : w.Unmarked)
    (same : v.message ++ (" [" ++ (v.ruleId ++ "]")) = w.message ++ (" [" ++ (w.ruleId ++ "]"))) :
    v.message = w.message ∧ v.ruleId = w.ruleId := by
  simp only [← String.append_assoc, String.append_left_inj] at same
  have chars := congrArg String.toList same
  simp only [String.toList_append, List.append_assoc] at chars
  obtain ⟨message, ruleId⟩ := Text.last_mark_apart (by decide) unmarked unmarked' chars
  exact ⟨String.toList_inj.mp message, String.toList_inj.mp ruleId⟩

/-- Violations that are told by the same line, with the same text in front, agree in all that a line
    tells. Their messages may hold anything, also what looks like a place, a severity or a rule. -/
theorem violation_line_eq_iff (color : Bool) (before : String) (unmarked : v.Unmarked)
    (unmarked' : w.Unmarked) :
    violationLine color before v = violationLine color before w ↔
      v.line = w.line ∧ v.column = w.column ∧ v.severity = w.severity ∧ v.message = w.message ∧
        v.ruleId = w.ruleId := by
  constructor
  · intro same
    simp only [violationLine, String.append_assoc, String.append_right_inj] at same
    obtain ⟨line, column, named⟩ := place_apart same
    obtain ⟨severity, told⟩ := severity_apart named
    have marked := (String.append_right_inj _).mp told
    obtain ⟨message, ruleId⟩ := message_apart unmarked unmarked' marked
    exact ⟨line, column, severity, message, ruleId⟩
  · rintro ⟨line, column, severity, message, ruleId⟩
    simp only [violationLine, Violation.location, line, column, severity, message, ruleId]

end Line

def lineInLine : Violation :=
  ⟨"no-semicolons", .error, 4, "7: warning: a [b] 1:2: error: c", some 15, "hint"⟩

def movedLine : Violation := { lineInLine with line := 41, column := some 5 }

theorem line_in_line_told :
    lineInLine.Unmarked ∧ movedLine.Unmarked ∧
      (∀ color before, violationLine color before lineInLine =
        violationLine color before { lineInLine with hint := "" }) ∧
      ∀ color before, violationLine color before lineInLine ≠ violationLine color before movedLine := by
  have unmarked : lineInLine.Unmarked := by decide
  have moved : movedLine.Unmarked := by decide
  refine ⟨unmarked, moved, ?_, ?_⟩
  · intro color before
    have unhinted : Violation.Unmarked { lineInLine with hint := "" } := unmarked
    exact (violation_line_eq_iff color before unmarked unhinted).mpr ⟨rfl, rfl, rfl, rfl, rfl⟩
  · intro color before same
    obtain ⟨line, _⟩ := (violation_line_eq_iff color before unmarked moved).mp same
    cases line

/-- An id that holds the mark can be cut in two places. -/
example : violationLine false "" ⟨"b [c", .error, 1, "a", none, ""⟩ =
    violationLine false "" ⟨"c", .error, 1, "a [b", none, ""⟩ := by decide

end LineLint
