import LineLint.Proofs.Line.Split
import LineLint.Proofs.Text.Runs
import Mathlib.Data.List.DropRight

/- Spaces and tabs at the ends of lines. Without them a text has the same lines, each cut back to its
   last character that is neither. -/
namespace LineLint

namespace Text

def SpacesAndTabs (cs : List Char) : Prop := ∀ c ∈ cs, isSpaceOrTab c = true

theorem space_or_tab_iff {c : Char} : isSpaceOrTab c = true ↔ c = ' ' ∨ c = '\t' := by
  rw [isSpaceOrTab, Bool.or_eq_true, beq_iff_eq, beq_iff_eq]

theorem space_or_tab_blank {c : Char} (space : isSpaceOrTab c = true) : isBlank c = true := by
  rcases space_or_tab_iff.mp space with rfl | rfl <;> rfl

def trimmed (cs : List Char) : List Char := cs.rdropWhile isSpaceOrTab

theorem trimmed_append (cs : List Char) : ∃ tail, SpacesAndTabs tail ∧ trimmed cs ++ tail = cs :=
  ⟨cs.rtakeWhile isSpaceOrTab, fun _ => List.mem_rtakeWhile_imp, List.rdropWhile_append_rtakeWhile⟩

theorem trimmed_nil_iff {cs : List Char} : trimmed cs = [] ↔ SpacesAndTabs cs :=
  List.rdropWhile_eq_nil_iff

theorem trimmed_last {cs : List Char} {c : Char} (last : (trimmed cs).getLast? = some c) :
    isSpaceOrTab c = false := by
  have some : trimmed cs ≠ [] := by
    intro none
    rw [none] at last
    cases last
  rw [List.getLast?_eq_some_getLast some] at last
  rw [← Option.some.inj last, Bool.eq_false_iff]
  exact List.rdropWhile_last_not isSpaceOrTab cs some

theorem trimmed_cons (c : Char) (cs : List Char) :
    trimmed (c :: cs) = if trimmed cs = [] then trimmed [c] else c :: trimmed cs := by
  unfold trimmed List.rdropWhile
  rw [List.reverse_cons, List.dropWhile_append]
  by_cases none : cs.reverse.dropWhile isSpaceOrTab = []
  · simp [none]
  · simp [none]

theorem trimmed_mem {cs : List Char} {c : Char} (member : c ∈ trimmed cs) : c ∈ cs :=
  (List.rdropWhile_prefix isSpaceOrTab cs).mem member

/-- Where a text goes on with spaces and tabs to its end, what ends in another character belongs to the
    text in front of them. -/
theorem cut_before_blanks {front rest cs tail : List Char} {c : Char} (blank : SpacesAndTabs tail)
    (whole : front ++ rest = cs ++ tail) (last : front.getLast? = some c)
    (other : isSpaceOrTab c = false) : ∃ more, rest = more ++ tail ∧ front ++ more = cs := by
  rcases List.append_eq_append_iff.mp whole with ⟨more, rfl, rfl⟩ | ⟨more, rfl, rfl⟩
  · exact ⟨more, rfl, rfl⟩
  · -- The front reaches into the spaces and tabs, so that nothing of it is there.
    have nothing : more = [] := by
      by_contra some
      obtain ⟨d, ends⟩ := Option.ne_none_iff_exists'.mp (mt List.getLast?_eq_none_iff.mp some)
      rw [List.getLast?_append, ends, Option.some_or] at last
      obtain rfl := Option.some.inj last
      have space := blank d (List.mem_append_left rest (List.mem_of_getLast? ends))
      rw [space] at other
      cases other
    subst nothing
    exact ⟨[], rfl, by simp⟩

end Text

open Text

/-- A text without the spaces and tabs that only others stand between and a line feed. -/
def withoutLineBlanks : List Char → List Char
  | [] => []
  | c :: rest =>
      if isSpaceOrTab c && (rest.dropWhile isSpaceOrTab).head? = some '\n' then
        withoutLineBlanks rest
      else c :: withoutLineBlanks rest

def fed (lines : List (List Char)) : List Char := lines.flatMap fun line => line ++ ['\n']

theorem fed_cons (line : List Char) (lines : List (List Char)) :
    fed (line :: lines) = line ++ '\n' :: fed lines := by
  simp [fed]

theorem fed_split {text : List Char} (noReturn : '\r' ∉ text)
    (ended : text = [] ∨ text.getLast? = some '\n') : fed (splitLines text) = text := by
  induction text with
  | nil => rfl
  | cons c text ih =>
    have noReturn' : '\r' ∉ text := fun member => noReturn (List.mem_cons_of_mem c member)
    have ended' : text = [] ∨ text.getLast? = some '\n' := by
      cases text with
      | nil => exact .inl rfl
      | cons d text =>
        rw [List.getLast?_cons_cons] at ended
        exact .inr (ended.resolve_left (List.cons_ne_nil _ _))
    have later := ih noReturn' ended'
    have other : c ≠ '\r' := by
      rintro rfl
      exact noReturn List.mem_cons_self
    by_cases feed : c = '\n'
    · subst feed
      rw [split_lines_terminator rfl (by simp), fed_cons, later]
      rfl
    · have ordinary : isTerminator c = false := by simp [isTerminator, feed, other]
      rw [split_lines_cons ordinary]
      cases lines : splitLines text with
      | nil =>
        -- Only the empty text has no lines, and then this character ends the text.
        rw [lines] at later
        subst later
        rcases ended with none | last
        · cases none
        · exact absurd (Option.some.inj last) feed
      | cons line rest =>
        rw [lines, fed_cons] at later
        rw [consToFirst, fed_cons, List.cons_append, later]

theorem split_lines_ordinary (text : List Char) :
    ∀ line ∈ splitLines text, ∀ c ∈ line, isTerminator c = false := by
  fun_induction splitLines text with
  | case1 => simp
  | case2 rest ih => simpa using ih
  | case3 c rest noPair ends ih => simpa using ih
  | case4 c rest noPair ends ih =>
    have ordinary : isTerminator c = false := Bool.eq_false_iff.mpr ends
    cases lines : splitLines rest with
    | nil => simpa [consToFirst] using ordinary
    | cons line more =>
      rw [lines, List.forall_mem_cons] at ih
      exact List.forall_mem_cons.mpr ⟨List.forall_mem_cons.mpr ⟨ordinary, ih.1⟩, ih.2⟩

theorem blanks_reach_feed_iff {line : List Char} (single : '\n' ∉ line) (rest : List Char) :
    ((line ++ '\n' :: rest).dropWhile isSpaceOrTab).head? = some '\n' ↔ SpacesAndTabs line := by
  induction line with
  | nil => exact ⟨fun _ _ member => absurd member List.not_mem_nil, fun _ => rfl⟩
  | cons c line ih =>
    rw [List.mem_cons, not_or] at single
    rw [List.cons_append, List.dropWhile_cons, SpacesAndTabs, List.forall_mem_cons]
    by_cases space : isSpaceOrTab c = true
    · rw [if_pos space, ih single.2]
      exact (and_iff_right space).symm
    · rw [if_neg space, List.head?_cons]
      constructor
      · intro feed
        exact absurd (Option.some.inj feed).symm single.1
      · rintro ⟨here, _⟩
        exact absurd here space

theorem without_blanks_line {line : List Char} (single : '\n' ∉ line) (rest : List Char) :
    withoutLineBlanks (line ++ '\n' :: rest) = trimmed line ++ '\n' :: withoutLineBlanks rest := by
  induction line with
  | nil => rfl
  | cons c line ih =>
    rw [List.mem_cons, not_or] at single
    have reaches := blanks_reach_feed_iff single.2 rest
    have later := ih single.2
    rw [List.cons_append, withoutLineBlanks, trimmed_cons]
    by_cases blank : SpacesAndTabs line
    · have nothing : trimmed line = [] := trimmed_nil_iff.mpr blank
      have alone : trimmed [c] = if isSpaceOrTab c then [] else [c] :=
        List.rdropWhile_singleton isSpaceOrTab c
      rw [later, nothing, if_pos rfl, alone, reaches.mpr blank]
      cases isSpaceOrTab c <;> rfl
    · have last : (isSpaceOrTab c && decide (((line ++ '\n' :: rest).dropWhile
          isSpaceOrTab).head? = some '\n')) = false := by
        rw [decide_eq_false (mt reaches.mp blank), Bool.and_false]
      rw [last, later, if_neg Bool.false_ne_true, if_neg (mt trimmed_nil_iff.mp blank),
        List.cons_append]

theorem without_blanks_fed {lines : List (List Char)} (single : ∀ line ∈ lines, '\n' ∉ line) :
    withoutLineBlanks (fed lines) = fed (lines.map trimmed) := by
  induction lines with
  | nil => rfl
  | cons line lines ih =>
    obtain ⟨first, others⟩ := List.forall_mem_cons.mp single
    rw [fed_cons, without_blanks_line first, ih others, List.map_cons, fed_cons]

theorem split_lines_fed_lines {lines : List (List Char)}
    (ordinary : ∀ line ∈ lines, ∀ c ∈ line, isTerminator c = false) :
    splitLines (fed lines) = lines := by
  induction lines with
  | nil => rfl
  | cons line lines ih =>
    obtain ⟨first, others⟩ := List.forall_mem_cons.mp ordinary
    rw [fed_cons, split_lines_append first, ih others]

theorem split_without_blanks {text : List Char} (noReturn : '\r' ∉ text)
    (ended : text = [] ∨ text.getLast? = some '\n') :
    splitLines (withoutLineBlanks text) = (splitLines text).map trimmed := by
  have ordinary := split_lines_ordinary text
  have single : ∀ line ∈ splitLines text, '\n' ∉ line := by
    intro line member feed
    cases ordinary line member '\n' feed
  have cut := without_blanks_fed single
  rw [fed_split noReturn ended] at cut
  rw [cut]
  apply split_lines_fed_lines
  intro line member c within
  obtain ⟨whole, among, rfl⟩ := List.mem_map.mp member
  exact ordinary whole among c (trimmed_mem within)

end LineLint
