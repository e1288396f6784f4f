import LineLint.Proofs.Line.FinalBlanks
import LineLint.Proofs.Masking.SourceLines

/- Masking lines that go on with spaces and tabs. These open and close nothing, wherever the line ends;
   the most they do is to be taken together with a backslash in front of them. So the masker after the
   line is the one without them, and they are masked to spaces and tabs. -/
namespace LineLint
open LineLint.Text

namespace Masker
variable {m last : Masker} {raw shown tail : List Char} {s : MaskStep}

theorem space_or_tab_takes (m : Masker) {c : Char} (space : isSpaceOrTab c = true)
    (rest : List Char) :
    ∃ d, isSpaceOrTab d = true ∧ m.Takes (c :: rest) ⟨[d], rest, m⟩ := by
  have other : c ≠ '"' ∧ c ≠ '/' ∧ c ≠ '*' ∧ c ≠ '(' ∧ c ≠ ')' ∧ c ≠ '\\' := by
    rcases space_or_tab_iff.mp space with rfl | rfl <;> decide
  obtain ⟨quote, slash, star, opening, closing, backslash⟩ := other
  have noComment : ¬ OpensComment c rest := fun opens => slash opens.1
  cases inside : m.stack with
  | nil => exact ⟨c, space, .plain (.inl inside) quote noComment (.inl inside)⟩
  | cons top outer =>
    have literal (kind : top.isLiteral) : m.Takes (c :: rest) ⟨[' '], rest, m⟩ := by
      refine .literalText inside kind backslash ?_
      simp [ClosesLiteral, Ne.symm quote]
    cases top with
    | interpolation =>
      exact ⟨c, space, .plain (.inr ⟨outer, inside⟩) quote noComment (.inr ⟨opening, closing⟩)⟩
    | comment =>
      exact ⟨' ', rfl, .commentText inside (by simp [BoundsComment, slash, star])⟩
    | string => exact ⟨' ', rfl, literal rfl⟩
    | textBlock => exact ⟨' ', rfl, literal rfl⟩

theorem blanks_run (m : Masker) (blank : SpacesAndTabs tail) :
    ∃ hidden, SpacesAndTabs hidden ∧ Runs m tail hidden m := by
  induction tail with
  | nil => exact ⟨[], List.forall_mem_nil _, .done m⟩
  | cons c tail ih =>
    obtain ⟨first, others⟩ := List.forall_mem_cons.mp blank
    obtain ⟨d, space, takes⟩ := space_or_tab_takes m first tail
    obtain ⟨hidden, spaces, runs⟩ := ih others
    exact ⟨d :: hidden, List.forall_mem_cons.mpr ⟨space, spaces⟩, .step takes runs⟩

theorem begins_before_blanks {word : List Char} (visible : ∀ c ∈ word, isSpaceOrTab c = false)
    (blank : SpacesAndTabs tail) (begins : word <+: raw ++ tail) : word <+: raw := by
  induction word generalizing raw with
  | nil => exact List.nil_prefix
  | cons w word ih =>
    obtain ⟨first, others⟩ := List.forall_mem_cons.mp visible
    cases raw with
    | nil =>
      obtain ⟨more, rfl⟩ := begins
      have space := blank w List.mem_cons_self
      rw [space] at first
      cases first
    | cons c raw =>
      rw [List.cons_append, List.cons_prefix_cons] at begins
      exact List.cons_prefix_cons.mpr ⟨begins.1, ih others begins.2⟩

theorem head_before_blanks {c : Char} (visible : isSpaceOrTab c = false)
    (blank : SpacesAndTabs tail) (head : (raw ++ tail).head? = some c) : raw.head? = some c := by
  obtain ⟨rest, whole⟩ := List.head?_eq_some_iff.mp head
  have begins : [c] <+: raw ++ tail := ⟨rest, whole.symm⟩
  obtain ⟨more, rfl⟩ := begins_before_blanks (by simpa using visible) blank begins
  rfl

theorem opens_comment_before {c : Char} {rest : List Char} (blank : SpacesAndTabs tail)
    (opens : OpensComment c (rest ++ tail)) : OpensComment c rest :=
  opens.imp_right (Or.imp (head_before_blanks rfl blank) (head_before_blanks rfl blank))

theorem bounds_comment_before {c : Char} {rest : List Char} (blank : SpacesAndTabs tail)
    (bounds : BoundsComment c (rest ++ tail)) : BoundsComment c rest :=
  bounds.imp (And.imp_right (head_before_blanks rfl blank))
    (And.imp_right (head_before_blanks rfl blank))

theorem closes_literal_before {literal : Construct} (blank : SpacesAndTabs tail)
    (closes : ClosesLiteral literal (raw ++ tail)) : ClosesLiteral literal raw :=
  closes.imp (And.imp_right (begins_before_blanks (by simp [isSpaceOrTab]) blank))
    (And.imp_right (begins_before_blanks (by simp [isSpaceOrTab]) blank))

/-- A step is the same with spaces and tabs at the end of the line, but where it takes what is left of
    the line: then it takes some of them, too. -/
theorem takes_before_blanks (takes : m.Takes raw s) (blank : SpacesAndTabs tail) :
    m.Takes (raw ++ tail) ⟨s.shown, s.rest ++ tail, s.after⟩ ∨
      s.rest = [] ∧ ∃ hidden, SpacesAndTabs hidden ∧
        Runs m (raw ++ tail) (s.shown ++ hidden) s.after := by
  cases takes with
  | @lineComment rest code =>
    have spaces : SpacesAndTabs (blanks tail) := by simp [SpacesAndTabs, blanks, isSpaceOrTab]
    have takes : m.Takes ('/' :: '/' :: (rest ++ tail)) _ := .lineComment code
    refine .inr ⟨rfl, blanks tail, spaces, ?_⟩
    have runs := Runs.step takes (.done m)
    simpa [blanks] using runs
  | openComment code => exact .inl (.openComment code)
  | openTextBlock code => exact .inl (.openTextBlock code)
  | openString code single =>
    refine .inl (.openString code fun opens => single ?_)
    exact begins_before_blanks (by simp [isSpaceOrTab]) blank opens
  | countParen inside counted paren more => exact .inl (.countParen inside counted paren more)
  | closeInterpolation inside counted paren last =>
    exact .inl (.closeInterpolation inside counted paren last)
  | plain code unquoted noComment uncounted =>
    exact .inl (.plain code unquoted (fun opens => noComment (opens_comment_before blank opens))
      uncounted)
  | nestComment inside => exact .inl (.nestComment inside)
  | closeNested inside deep => exact .inl (.closeNested inside deep)
  | closeComment inside last => exact .inl (.closeComment inside last)
  | commentText inside ordinary =>
    exact .inl (.commentText inside fun bounds => ordinary (bounds_comment_before blank bounds))
  | openInterpolation inside isLiteral => exact .inl (.openInterpolation inside isLiteral)
  | escape inside isLiteral escaped => exact .inl (.escape inside isLiteral escaped)
  | loneBackslash inside isLiteral =>
    cases tail with
    | nil => exact .inl (.loneBackslash inside isLiteral)
    | cons c tail =>
      obtain ⟨first, others⟩ := List.forall_mem_cons.mp blank
      have escaped : c ≠ '(' := by
        rintro rfl
        cases first
      -- The backslash, alone before, now escapes the first of them.
      obtain ⟨hidden, spaces, runs⟩ := blanks_run m others
      have takes : m.Takes ('\\' :: c :: tail) _ := .escape inside isLiteral escaped
      have whole := Runs.step takes runs
      exact .inr ⟨rfl, ' ' :: hidden, List.forall_mem_cons.mpr ⟨rfl, spaces⟩, whole⟩
  | closeString inside => exact .inl (.closeString inside)
  | closeTextBlock inside => exact .inl (.closeTextBlock inside)
  | literalText inside isLiteral unescaped ordinary =>
    exact .inl (.literalText inside isLiteral unescaped fun closes =>
      ordinary (closes_literal_before blank closes))

theorem runs_before_blanks (runs : Runs m raw shown last) (blank : SpacesAndTabs tail) :
    ∃ hidden, SpacesAndTabs hidden ∧ Runs m (raw ++ tail) (shown ++ hidden) last := by
  induction runs with
  | done m =>
    obtain ⟨hidden, spaces, runs⟩ := blanks_run m blank
    exact ⟨hidden, spaces, runs⟩
  | @step m last raw shown s takes later ih =>
    rcases takes_before_blanks takes blank with extended | ⟨ended, hidden, spaces, runs⟩
    · obtain ⟨hidden, spaces, runs⟩ := ih
      refine ⟨hidden, spaces, ?_⟩
      have whole := Runs.step extended runs
      rwa [← List.append_assoc] at whole
    · rw [ended] at later
      cases later with
      | done => exact ⟨hidden, spaces, by rwa [List.append_nil]⟩
      | step takes => cases takes

def TrimmedStep (step cut : List Char × Masker) : Prop :=
  step.2 = cut.2 ∧ ∃ hidden, SpacesAndTabs hidden ∧ step.1 = cut.1 ++ hidden

theorem trace_trimmed {raws : List (List Char)} {steps : List (List Char × Masker)}
    (counted : m.Counted) (trace : m.trace raws = .ok steps) :
    ∃ cuts, m.trace (raws.map trimmed) = .ok cuts ∧ List.Forall₂ TrimmedStep steps cuts := by
  induction raws generalizing m steps with
  | nil =>
    cases trace
    exact ⟨[], rfl, .nil⟩
  | cons raw raws ih =>
    obtain ⟨code, next, more, mask, after, rfl⟩ := trace_cons_ok trace
    obtain ⟨shown, last, run, lastCounted⟩ := run_total counted (trimmed raw)
    have runs := runs_of_run run
    obtain ⟨tail, blank, whole⟩ := trimmed_append raw
    obtain ⟨hidden, spaces, extended⟩ := runs_before_blanks runs blank
    rw [whole] at extended
    cases mask.symm.trans (mask_of_runs extended)
    obtain ⟨_, _, masked, nextCounted⟩ := mask_total counted raw
    cases mask.symm.trans masked
    obtain ⟨cuts, cutTrace, related⟩ := ih nextCounted after
    exact ⟨_, trace_cons (mask_of_runs runs) cutTrace, .cons ⟨rfl, hidden, spaces, rfl⟩ related⟩

end Masker

/-- A line beside the same line cut back: nothing but spaces and tabs is missing at the end, in the
    masked line as in the raw one. -/
structure Line.Trims (line cut : Line) : Prop where
  number : cut.number = line.number
  text : cut.text = trimmed line.text
  code : ∃ hidden, SpacesAndTabs hidden ∧ line.code = cut.code ++ hidden

theorem numbered_trimmed {raws : List (List Char)} {steps cuts : List (List Char × Masker)}
    (related : List.Forall₂ Masker.TrimmedStep steps cuts) (number : Nat) :
    List.Forall₂ Line.Trims (numbered number raws (steps.map Prod.fst))
      (numbered number (raws.map trimmed) (cuts.map Prod.fst)) := by
  induction related generalizing number raws with
  | nil => cases raws <;> exact .nil
  | cons first _ ih =>
    cases raws with
    | nil => exact .nil
    | cons raw raws => exact .cons ⟨rfl, rfl, first.2⟩ (ih (number + 1))

theorem source_lines_trimmed {text : List Char} (noReturn : '\r' ∉ text)
    (ended : text = [] ∨ text.getLast? = some '\n') :
    List.Forall₂ Line.Trims (sourceLines text) (sourceLines (withoutLineBlanks text)) := by
  obtain ⟨steps, trace, lines⟩ := source_lines_traced text
  obtain ⟨cuts, cutTrace, related⟩ := Masker.trace_trimmed Masker.start_counted trace
  have split := split_without_blanks noReturn ended
  rw [lines, sourceLines, split, Masker.codes_eq cutTrace]
  exact numbered_trimmed related 1

end LineLint
