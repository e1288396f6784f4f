import LineLint.Text.Search
import Mathlib.Data.List.Basic

/- Texts in pieces. The pieces between the occurrences of a separator are what the text is joined from;
   those between line feeds are single lines. -/
namespace LineLint

def OneLine (text : String) : Prop := '\n' ∉ text.toList

instance (text : String) : Decidable (OneLine text) :=
  inferInstanceAs (Decidable ('\n' ∉ text.toList))

theorem one_line_append {a b : String} : OneLine (a ++ b) ↔ OneLine a ∧ OneLine b := by
  simp only [OneLine, String.toList_append, List.mem_append, not_or]

theorem one_line_of_list {cs : List Char} : OneLine (String.ofList cs) ↔ '\n' ∉ cs := by
  rw [OneLine, String.toList_ofList]

namespace Text

theorem piece_cons {separator c : Char} {cs piece : List Char}
    (among : piece ∈ pieces separator (c :: cs)) :
    piece = [] ∨ piece ∈ pieces separator cs ∨
      c ≠ separator ∧ ∃ more, piece = c :: more ∧ (more = [] ∨ more ∈ pieces separator cs) := by
  unfold pieces at among
  split at among
  · exact (List.mem_cons.mp among).imp_right .inl
  · rename_i other
    split at among
    · exact .inr (.inr ⟨other, [], List.mem_singleton.mp among, .inl rfl⟩)
    · rename_i first rest eq
      rw [eq]
      rcases List.mem_cons.mp among with joined | later
      · exact .inr (.inr ⟨other, first, joined, .inr List.mem_cons_self⟩)
      · exact .inr (.inl (List.mem_cons_of_mem first later))

theorem piece_mem {separator c : Char} {cs piece : List Char}
    (among : piece ∈ pieces separator cs) (member : c ∈ piece) : c ∈ cs := by
  induction cs generalizing piece with
  | nil =>
    obtain rfl := List.mem_singleton.mp among
    cases member
  | cons d cs ih =>
    rcases piece_cons among with rfl | later | ⟨_, more, rfl, joined⟩
    · cases member
    · exact List.mem_cons_of_mem d (ih later member)
    · rcases List.mem_cons.mp member with rfl | inner
      · exact List.mem_cons_self
      · rcases joined with rfl | first
        · cases inner
        · exact List.mem_cons_of_mem d (ih first inner)

theorem mem_intercalate {separator : List Char} {parts : List (List Char)} {c : Char}
    (member : c ∈ separator.intercalate parts) : c ∈ separator ∨ ∃ part ∈ parts, c ∈ part := by
  induction parts with
  | nil => cases member
  | cons first rest ih =>
    cases rest with
    | nil =>
      rw [List.intercalate_singleton] at member
      exact .inr ⟨first, List.mem_cons_self, member⟩
    | cons second more =>
      rw [List.intercalate_cons_cons] at member
      rcases List.mem_append.mp member with front | later
      · rcases List.mem_append.mp front with own | between
        · exact .inr ⟨first, List.mem_cons_self, own⟩
        · exact .inl between
      · rcases ih later with between | ⟨part, among, own⟩
        · exact .inl between
        · exact .inr ⟨part, List.mem_cons_of_mem first among, own⟩

theorem line_feed_not_digit {base : Nat} (large : 1 < base) (n : Nat) :
    '\n' ∉ Nat.toDigits base n := by
  induction n using Nat.strongRecOn with
  | ind n ih =>
    rw [Nat.toDigits_eq_if large]
    split
    · rw [List.mem_singleton]
      exact (Nat.digitChar_ne '\n' rfl).symm
    · rename_i more
      have smaller : n / base < n := Nat.div_lt_self (by omega) large
      rw [List.mem_append, List.mem_singleton]
      rintro (front | last)
      · exact ih (n / base) smaller front
      · exact Nat.digitChar_ne '\n' rfl last.symm

theorem pieces_ne_nil (separator : Char) (cs : List Char) : pieces separator cs ≠ [] := by
  cases cs with
  | nil => exact List.cons_ne_nil _ _
  | cons c cs =>
    unfold pieces
    split
    · exact List.cons_ne_nil _ _
    · split <;> exact List.cons_ne_nil _ _

theorem pieces_free {separator : Char} {part : List Char} (free : separator ∉ part) :
    pieces separator part = [part] := by
  induction part with
  | nil => rfl
  | cons c rest ih =>
    simp only [List.mem_cons, not_or] at free
    rw [pieces, if_neg (Ne.symm free.1), ih free.2]

theorem pieces_append {separator : Char} {part : List Char} (free : separator ∉ part)
    (cs : List Char) : pieces separator (part ++ separator :: cs) = part :: pieces separator cs := by
  induction part with
  | nil => simp [pieces]
  | cons c rest ih =>
    simp only [List.mem_cons, not_or] at free
    rw [List.cons_append, pieces, if_neg (Ne.symm free.1), ih free.2]

theorem piece_free {separator : Char} {cs piece : List Char} (among : piece ∈ pieces separator cs) :
    separator ∉ piece := by
  induction cs generalizing piece with
  | nil =>
    obtain rfl := List.mem_singleton.mp among
    exact List.not_mem_nil
  | cons c cs ih =>
    rcases piece_cons among with rfl | later | ⟨other, more, rfl, joined⟩
    · exact List.not_mem_nil
    · exact ih later
    · have free : separator ∉ more := by
        rcases joined with rfl | first
        · exact List.not_mem_nil
        · exact ih first
      rw [List.mem_cons, not_or]
      exact ⟨Ne.symm other, free⟩

theorem intercalate_pieces (separator : Char) (cs : List Char) :
    [separator].intercalate (pieces separator cs) = cs := by
  induction cs with
  | nil => rfl
  | cons c cs ih =>
    unfold pieces
    cases later : pieces separator cs with
    | nil => exact absurd later (pieces_ne_nil separator cs)
    | cons piece rest =>
      rw [later] at ih
      split
      · rename_i same
        rw [List.intercalate_cons_cons, ih, List.nil_append, same]
        rfl
      · cases rest with
        | nil =>
          rw [List.intercalate_singleton] at ih ⊢
          rw [ih]
        | cons second more =>
          rw [List.intercalate_cons_cons] at ih ⊢
          rw [← ih]
          rfl

theorem pieces_intercalate {separator : Char} {parts : List (List Char)} (some : parts ≠ [])
    (free : ∀ part ∈ parts, separator ∉ part) :
    pieces separator ([separator].intercalate parts) = parts := by
  induction parts with
  | nil => exact absurd rfl some
  | cons first rest ih =>
    obtain ⟨own, others⟩ := List.forall_mem_cons.mp free
    cases rest with
    | nil => rw [List.intercalate_singleton, pieces_free own]
    | cons second more =>
      rw [List.intercalate_cons_cons, List.append_assoc, List.singleton_append, pieces_append own,
        ih (List.cons_ne_nil _ _) others]

theorem pieces_joined {separator : Char} {glue : String} (alone : glue.toList = [separator])
    {parts : List String} (some : parts ≠ []) (free : ∀ part ∈ parts, separator ∉ part.toList) :
    (pieces separator (glue.intercalate parts).toList).map String.ofList = parts := by
  rw [String.toList_intercalate, alone, pieces_intercalate]
  · simp
  · simpa using some
  · simpa using free

end Text

theorem number_one_line (n : Nat) : OneLine (toString n) := by
  rw [Nat.toString_eq_ofList_toDigits, one_line_of_list]
  exact Text.line_feed_not_digit (by decide) n

end LineLint
