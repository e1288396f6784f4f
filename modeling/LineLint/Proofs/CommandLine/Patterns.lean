import LineLint.CommandLine.Options
import LineLint.Proofs.Text.Pieces
import LineLint.Proofs.Text.Runs
import Mathlib.Data.List.Forall2
import Mathlib.Data.List.TakeWhile

/- The patterns that the text of an option stands for. The text is cut at its commas, each piece loses
   the white space at its ends, and pieces of nothing else are left out. -/
namespace LineLint.Text

def Trims (cs word : List Char) : Prop :=
  ∃ front back, cs = front ++ word ++ back ∧ Blank front ∧ Blank back ∧
    Stops isBlank word ∧ Stops isBlank word.reverse

theorem strip_trims (cs : List Char) : Trims cs (strip cs) := by
  have front : Blank (cs.takeWhile isBlank) := List.all_eq_true.mp List.all_takeWhile
  have back : Blank ((cs.dropWhile isBlank).reverse.takeWhile isBlank).reverse := fun c member =>
    List.all_eq_true.mp List.all_takeWhile c (List.mem_reverse.mp member)
  have cut : cs.dropWhile isBlank =
      strip cs ++ ((cs.dropWhile isBlank).reverse.takeWhile isBlank).reverse := by
    rw [strip, ← List.reverse_append, List.takeWhile_append_dropWhile, List.reverse_reverse]
  refine ⟨_, _, ?_, front, back, ?_, ?_⟩
  · rw [List.append_assoc, ← cut, List.takeWhile_append_dropWhile]
  · -- What is left begins as the text does without the white space in front.
    have stops := drop_while_stops isBlank cs
    rw [cut] at stops
    cases begins : strip cs with
    | nil => rfl
    | cons c rest =>
      rw [begins] at stops
      exact stops
  · rw [strip, List.reverse_reverse]
    exact drop_while_stops isBlank _

theorem strip_eq_iff {cs word : List Char} : strip cs = word ↔ Trims cs word := by
  constructor
  · rintro rfl
    exact strip_trims cs
  · rintro ⟨front, back, rfl, blank, also, first, last⟩
    cases word with
    | nil =>
      have all : Blank (front ++ [] ++ back) :=
        blank_append.mpr ⟨blank_append.mpr ⟨blank, by simp [Blank]⟩, also⟩
      rw [strip, List.dropWhile_eq_nil_iff.mpr all]
      rfl
    | cons c rest =>
      have behind : Blank back.reverse := fun c member => also c (List.mem_reverse.mp member)
      have begins : Stops isBlank (c :: rest ++ back) := first
      rw [strip, List.append_assoc, drop_while_append blank begins, List.reverse_append,
        drop_while_append behind last, List.reverse_reverse]

end LineLint.Text

namespace LineLint.CommandLine

/-- The patterns are what is left of the pieces between the commas of the text, in order. -/
def Lists (text : String) (patterns : List String) : Prop :=
  ∃ pieces words : List (List Char), pieces ≠ [] ∧ text.toList = [','].intercalate pieces ∧
    (∀ piece ∈ pieces, ',' ∉ piece) ∧ List.Forall₂ Text.Trims pieces words ∧
    patterns.map String.toList = words.filter (· ≠ [])

theorem patterns_in_eq_iff {text : String} {patterns : List String} :
    patternsIn text = patterns ↔ Lists text patterns := by
  have stripped {pieces words : List (List Char)} :
      List.Forall₂ Text.Trims pieces words ↔ pieces.map Text.strip = words := by
    rw [← List.forall₂_eq_eq_eq, List.forall₂_map_left_iff]
    simp only [Text.strip_eq_iff]
  have kept (words : List (List Char)) :
      words.filter (fun p => !p.isEmpty) = words.filter (· ≠ []) :=
    List.filter_congr fun p _ => by cases p <;> rfl
  constructor
  · rintro rfl
    refine ⟨Text.pieces ',' text.toList, _, Text.pieces_ne_nil _ _,
      (Text.intercalate_pieces ',' text.toList).symm, fun piece => Text.piece_free,
      stripped.mpr rfl, ?_⟩
    rw [patternsIn, kept, List.map_map]
    simp
  · rintro ⟨pieces, words, some, whole, free, trims, same⟩
    rw [patternsIn, whole, Text.pieces_intercalate some free, stripped.mp trims, kept, ← same,
      List.map_map]
    simp

end LineLint.CommandLine
