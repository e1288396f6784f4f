import LineLint.Proofs.Matching.LineSearches
import LineLint.Proofs.Text.Numbers
import LineLint.Rule.Builtin

/- Spaces and tabs at the two ends of a line. Those at its end are reported where the longest run of
   them begins; an indentation is reported at its first space unless it is tabs and then spaces. -/
namespace LineLint
open LineLint.Text

/-- A text cut in front of the longest run of spaces and tabs at its end. -/
structure FinalRun (text front run : List Char) : Prop where
  whole : text = front ++ run
  blank : SomeOf isSpaceOrTab run
  longest : front.getLast?.any isSpaceOrTab = false

/-- A text cut behind the longest run of spaces and tabs at its beginning. -/
structure Indented (text indent rest : List Char) : Prop where
  whole : text = indent ++ rest
  blank : SpacesAndTabs indent
  longest : Stops isSpaceOrTab rest

def TabsThenSpaces (indent : List Char) : Prop :=
  ∃ tabs spaces, indent = List.replicate tabs '\t' ++ List.replicate spaces ' '

namespace Pattern

variable {cs front run : List Char}

theorem final_run_blanks (final : FinalRun cs front run) : finalBlanks cs = run := by
  have blank : ∀ c ∈ run.reverse, isSpaceOrTab c = true := fun c member =>
    final.blank.all c (List.mem_reverse.mp member)
  have stops : Stops isSpaceOrTab front.reverse := by
    rw [Stops, List.head?_reverse]
    exact final.longest
  rw [final.whole, finalBlanks, List.reverse_append, take_while_append blank stops, List.reverse_reverse]

theorem final_run_exists (some : finalBlanks cs ≠ []) : FinalRun cs (trimmed cs) (finalBlanks cs) where
  whole := List.rdropWhile_append_rtakeWhile.symm
  blank := ⟨some, fun _ => final_blanks_blank⟩
  longest := by
    cases last : (trimmed cs).getLast? with
    | none => rfl
    | some c => exact trimmed_last last

theorem find_trailing_iff (single : '\n' ∉ cs) {found : Found} :
    findTrailing cs = some found ↔
      ∃ front run, FinalRun cs front run ∧ found = ⟨front.length, .part (some front.length), []⟩ := by
  have place {front run : List Char} (final : FinalRun cs front run) :
      cs.length - run.length = front.length := by
    rw [final.whole, List.length_append, Nat.add_sub_cancel]
  rw [findTrailing, without_final_newline_single single]
  constructor
  · intro hit
    dsimp only at hit
    split at hit
    · cases hit
    · rename_i some
      have final := final_run_exists (mt List.isEmpty_iff.mpr some)
      rw [place final] at hit
      exact ⟨_, _, final, (Option.some.inj hit).symm⟩
  · rintro ⟨front, run, final, rfl⟩
    have blanks : run.isEmpty = false := List.isEmpty_eq_false_iff.mpr final.blank.some
    rw [final_run_blanks final]
    simp only [blanks, Bool.false_eq_true, if_false, place final]

end Pattern

theorem final_run_last_iff {text : List Char} :
    (∃ front run, FinalRun text front run) ↔ ∃ c, text.getLast? = some c ∧ isSpaceOrTab c = true := by
  constructor
  · rintro ⟨front, run, final⟩
    obtain ⟨c, last⟩ := Option.ne_none_iff_exists'.mp (mt List.getLast?_eq_none_iff.mp final.blank.some)
    refine ⟨c, ?_, final.blank.all c (List.mem_of_getLast? last)⟩
    rw [final.whole, List.getLast?_append, last, Option.some_or]
  · rintro ⟨c, last, space⟩
    refine ⟨_, _, Pattern.final_run_exists fun none => ?_⟩
    obtain ⟨front, rfl⟩ := List.getLast?_eq_some_iff.mp last
    simp [Pattern.finalBlanks, space] at none

/-- The hit of a matcher that points in front of the character behind a part of the line. -/
def hitBehind (front : List Char) : Hit := ⟨some (front.length + 1), []⟩

theorem trailing_hit_iff {text : List Char} (single : '\n' ∉ text) {hit : Hit} :
    (Pattern.findTrailing text).map Found.hit = some hit ↔
      ∃ front run, FinalRun text front run ∧ hit = hitBehind front := by
  rw [Option.map_eq_some_iff]
  simp only [Pattern.find_trailing_iff single]
  constructor
  · rintro ⟨_, ⟨front, run, final, rfl⟩, rfl⟩
    exact ⟨front, run, final, rfl⟩
  · rintro ⟨front, run, final, rfl⟩
    exact ⟨_, ⟨front, run, final, rfl⟩, rfl⟩

theorem trailing_found_iff {text : List Char} (single : '\n' ∉ text) :
    ((Pattern.findTrailing text).map Found.hit).isSome = true ↔
      ∃ c, text.getLast? = some c ∧ (c = ' ' ∨ c = '\t') := by
  simp only [← space_or_tab_iff, ← final_run_last_iff, Option.isSome_iff_exists, trailing_hit_iff single]
  constructor
  · rintro ⟨hit, front, run, final, _⟩
    exact ⟨front, run, final⟩
  · rintro ⟨front, run, final⟩
    exact ⟨_, front, run, final, rfl⟩

section Indent

variable {indent : List Char}

theorem tabs_then_spaces_iff (blank : SpacesAndTabs indent) :
    TabsThenSpaces indent ↔ '\t' ∉ indent.dropWhile (· != ' ') := by
  constructor
  · rintro ⟨tabs, spaces, rfl⟩
    have others : ∀ c ∈ List.replicate tabs '\t', (c != ' ') = true := by
      intro c member
      rw [List.eq_of_mem_replicate member]
      rfl
    have stops : Stops (· != ' ') (List.replicate spaces ' ') := by
      cases spaces <;> rfl
    rw [drop_while_append others stops]
    intro tab
    cases List.eq_of_mem_replicate tab
  · intro noTab
    have whole := List.takeWhile_append_dropWhile (p := (· != ' ')) (l := indent)
    refine ⟨(indent.takeWhile (· != ' ')).length, (indent.dropWhile (· != ' ')).length, ?_⟩
    have tabs : indent.takeWhile (· != ' ') =
        List.replicate (indent.takeWhile (· != ' ')).length '\t' := by
      refine List.eq_replicate_of_mem fun c member => ?_
      have other : c ≠ ' ' := bne_iff_ne.mp (List.all_eq_true.mp List.all_takeWhile c member)
      exact (space_or_tab_iff.mp (blank c ((List.takeWhile_prefix _).mem member))).resolve_left other
    have spaces : indent.dropWhile (· != ' ') =
        List.replicate (indent.dropWhile (· != ' ')).length ' ' := by
      refine List.eq_replicate_of_mem fun c member => ?_
      refine (space_or_tab_iff.mp (blank c ((List.dropWhile_suffix _).mem member))).resolve_right ?_
      rintro rfl
      exact noTab member
    rw [← tabs, ← spaces, whole]

theorem line_indented (line : Line) :
    Indented line.text line.indent (line.text.dropWhile isSpaceOrTab) where
  whole := List.takeWhile_append_dropWhile.symm
  blank := List.all_eq_true.mp List.all_takeWhile
  longest := drop_while_stops isSpaceOrTab line.text

theorem indent_found_iff {line : Line} :
    (∃ hit, spaceBeforeTab line = .ok (some hit)) ↔ ¬ TabsThenSpaces line.indent := by
  rw [tabs_then_spaces_iff (line_indented line).blank, not_not]
  simp only [Pattern.space_before_tab_iff, exists_and_left, exists_eq, and_true]

theorem indent_hit_iff {line : Line} {hit : Hit} :
    spaceBeforeTab line = .ok (some hit) ↔
      ¬ TabsThenSpaces line.indent ∧
        ∃ front rest, line.text = front ++ ' ' :: rest ∧ ' ' ∉ front ∧ hit = hitBehind front := by
  have indented := line_indented line
  rw [Pattern.space_before_tab_iff, tabs_then_spaces_iff indented.blank, not_not]
  refine and_congr_right fun tab => ?_
  obtain ⟨first, more, indent⟩ := Pattern.first_space tab
  have whole := indented.whole
  rw [indent, List.append_assoc, List.cons_append] at whole
  constructor
  · rintro rfl
    exact ⟨_, _, whole, first, rfl⟩
  · rintro ⟨front, rest, cut, none, rfl⟩
    obtain ⟨rfl, -⟩ := first_apart none first (cut.symm.trans whole)
    rfl

end Indent

/-- A final space or tab is reported, where the longest run of them at the end begins: this is what the
    expression finds, wherever else on the line spaces and tabs stand. An indentation is reported unless
    it is tabs and then spaces, at the first space of the line. -/
theorem line_blanks_reported {line : Line} (single : '\n' ∉ line.text) :
    (∃ outcome, Rule.trailingWhitespace.matcher line = .ok outcome ∧
      outcome = (Pattern.trailingExpression.search line.text).map
        (fun m => (Pattern.trailingExpression.found m).hit) ∧
      (outcome.isSome = true ↔ ∃ c, line.text.getLast? = some c ∧ (c = ' ' ∨ c = '\t')) ∧
      ∀ hit, outcome = some hit ↔ ∃ front run, FinalRun line.text front run ∧ hit = hitBehind front) ∧
    ∃ outcome, Rule.noSpaceIndent.matcher line = .ok outcome ∧
      ∃ rest, Indented line.text line.indent rest ∧
        (outcome.isSome = true ↔ ¬ TabsThenSpaces line.indent) ∧
        ∀ hit, outcome = some hit → ∃ front rest, line.text = front ++ ' ' :: rest ∧ ' ' ∉ front ∧
          hit = hitBehind front := by
  constructor
  · refine ⟨_, rfl, ?_, trailing_found_iff single, fun hit => trailing_hit_iff single⟩
    have follows := congrArg (Option.map Found.hit) (Pattern.trailing_blanks_follows line.text)
    exact follows.trans (Option.map_map ..)
  · refine ⟨_, rfl, _, line_indented line, ?_, ?_⟩
    · rw [Option.isSome_iff_exists, ← indent_found_iff]
      exact exists_congr fun hit => ⟨congrArg Except.ok, Except.ok.inj⟩
    · intro hit reported
      exact (indent_hit_iff.mp (congrArg Except.ok reported)).2

def mixedBlanks : Line := ⟨3, "\t \tx \t y \t ".toList, "\t \tx \t y \t ".toList⟩

theorem mixed_blanks_reported :
    '\n' ∉ mixedBlanks.text ∧
      Rule.trailingWhitespace.matcher mixedBlanks = .ok (some (hitBehind "\t \tx \t y".toList)) ∧
      ∃ hit, Rule.noSpaceIndent.matcher mixedBlanks = .ok (some hit) ∧ hit.column = some 2 := by
  have single : '\n' ∉ mixedBlanks.text := by decide +kernel
  obtain ⟨⟨trailing, reported, -, -, hits⟩, indent, reported', -, -, found, place⟩ :=
    line_blanks_reported single
  have final : FinalRun mixedBlanks.text "\t \tx \t y".toList " \t ".toList :=
    ⟨by decide +kernel, ⟨by decide +kernel, List.all_eq_true.mp (by decide +kernel)⟩,
      by decide +kernel⟩
  refine ⟨single, by rw [reported, (hits _).mpr ⟨_, _, final, rfl⟩], ?_⟩
  have mixed : ¬ TabsThenSpaces mixedBlanks.indent := by
    rw [tabs_then_spaces_iff (line_indented mixedBlanks).blank]
    decide +kernel
  obtain ⟨hit, some⟩ := Option.isSome_iff_exists.mp (found.mpr mixed)
  obtain ⟨front, rest, whole, first, rfl⟩ := place hit some
  refine ⟨_, by rw [reported', some], ?_⟩
  have cut : mixedBlanks.text = ['\t'] ++ ' ' :: "\tx \t y \t ".toList := by decide +kernel
  obtain ⟨rfl, -⟩ := first_apart first (by decide) (whole.symm.trans cut)
  rfl

end LineLint
