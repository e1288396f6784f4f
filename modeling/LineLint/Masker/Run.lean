import LineLint.Masker.Rules

/- Masking whole lines, one after the other. A masker that keeps a count for each open interpolation
   never asks for what it does not have, and keeps doing so; the masker at the start of a source is
   one. So every source has masked lines. -/
namespace LineLint

namespace Masker

theorem takes_rest {m : Masker} {raw : List Char} {s : MaskStep} (takes : m.Takes raw s) :
    s.rest.length < raw.length := by
  cases takes <;> simp only [List.length_cons, List.length_nil] <;> omega

def run (m : Masker) : List Char → Except MaskFault (List Char × Masker)
  | [] => .ok ([], m)
  | c :: cs =>
      match _taken : m.step c cs with
      | .error fault => .error fault
      | .ok s => (s.after.run s.rest).map fun (shown, last) => (s.shown ++ shown, last)
termination_by cs => cs.length
decreasing_by exact takes_rest (takes_of_step _taken)

/-- The open constructs that end with the line, and those that stay open. A string cannot run over
    the end of a line: the outermost open one ends, with everything opened after it. -/
def cut : List Construct → List Construct × List Construct
  | [] => ([], [])
  | c :: outer =>
      if Construct.string ∈ c :: outer then
        let (ended, kept) := cut outer
        (c :: ended, kept)
      else ([], c :: outer)

def endLine (m : Masker) : Masker :=
  let (ended, kept) := cut m.stack
  { m with stack := kept, parens := m.parens.drop (ended.count .interpolation) }

/-- The masked form of one line, and the masker for the next. -/
def mask (m : Masker) (raw : List Char) : Except MaskFault (List Char × Masker) :=
  (m.run raw).map fun (shown, last) => (shown, last.endLine)

/-- Masks lines one after the other. Each masked line stands with the masker after it. -/
def trace (m : Masker) : List (List Char) → Except MaskFault (List (List Char × Masker))
  | [] => .ok []
  | raw :: rest =>
      match m.mask raw with
      | .error fault => .error fault
      | .ok (code, next) => (next.trace rest).map fun more => (code, next) :: more

inductive Runs : Masker → List Char → List Char → Masker → Prop where
  | done (m : Masker) : Runs m [] [] m
  | step {m last : Masker} {raw shown : List Char} {s : MaskStep}
      (takes : m.Takes raw s) (rest : Runs s.after s.rest shown last) :
      Runs m raw (s.shown ++ shown) last

@[simp] theorem run_nil (m : Masker) : m.run [] = .ok ([], m) := by
  rw [run]

theorem run_of_takes {m : Masker} {raw : List Char} {s : MaskStep} (takes : m.Takes raw s) :
    m.run raw = (s.after.run s.rest).map fun (shown, last) => (s.shown ++ shown, last) := by
  cases raw with
  | nil => cases takes
  | cons c cs =>
    have step := step_of_takes takes
    rw [run]
    split
    · rename_i fault failed
      rw [step] at failed
      cases failed
    · rename_i t taken
      rw [step] at taken
      cases taken
      rfl

theorem run_of_runs {m last : Masker} {raw shown : List Char} (runs : Runs m raw shown last) :
    m.run raw = .ok (shown, last) := by
  induction runs with
  | done m => exact run_nil m
  | step takes rest ih => rw [run_of_takes takes, ih]; rfl

theorem runs_of_run {m last : Masker} {raw shown : List Char}
    (run : m.run raw = .ok (shown, last)) : Runs m raw shown last := by
  induction h : raw.length using Nat.strongRecOn generalizing m raw shown with
  | ind n ih =>
    cases raw with
    | nil => rw [run_nil] at run; cases run; exact .done _
    | cons c cs =>
      rw [Masker.run] at run
      split at run
      · cases run
      · rename_i s taken
        have takes := takes_of_step taken
        cases after : s.after.run s.rest with
        | error fault => rw [after] at run; cases run
        | ok found =>
          rw [after] at run
          cases run
          exact .step takes (ih _ (h ▸ takes_rest takes) after rfl)

theorem mask_eq_ok {m next : Masker} {raw code : List Char} (mask : m.mask raw = .ok (code, next)) :
    ∃ last, Runs m raw code last ∧ next = last.endLine := by
  unfold Masker.mask at mask
  cases run : m.run raw with
  | error fault => rw [run] at mask; cases mask
  | ok found =>
    rw [run] at mask
    cases mask
    exact ⟨found.2, runs_of_run run, rfl⟩

theorem mask_of_runs {m last : Masker} {raw code : List Char} (runs : Runs m raw code last) :
    m.mask raw = .ok (code, last.endLine) := by
  rw [Masker.mask, run_of_runs runs]
  rfl

theorem trace_cons_ok {m : Masker} {raw : List Char} {rest : List (List Char)}
    {steps : List (List Char × Masker)} (trace : m.trace (raw :: rest) = .ok steps) :
    ∃ code next more, m.mask raw = .ok (code, next) ∧ next.trace rest = .ok more ∧
      steps = (code, next) :: more := by
  unfold Masker.trace at trace
  split at trace
  · cases trace
  · rename_i code next mask
    cases after : next.trace rest with
    | error fault => rw [after] at trace; cases trace
    | ok more =>
      rw [after] at trace
      cases trace
      exact ⟨code, next, more, mask, after, rfl⟩

theorem trace_cons {m next : Masker} {raw code : List Char} {rest : List (List Char)}
    {more : List (List Char × Masker)} (mask : m.mask raw = .ok (code, next))
    (after : next.trace rest = .ok more) : m.trace (raw :: rest) = .ok ((code, next) :: more) := by
  simp only [Masker.trace, mask, after, Except.map]

def Counted (m : Masker) : Prop := m.parens.length = m.stack.count .interpolation

theorem start_counted : start.Counted := rfl

theorem counted_count {m : Masker} {outer : List Construct} (counted : m.Counted)
    (inside : m.stack = .interpolation :: outer) :
    ∃ n counts, m.parens = n :: counts ∧ counts.length = outer.count .interpolation := by
  unfold Counted at counted
  rw [inside, List.count_cons_self] at counted
  obtain ⟨n, counts, eq⟩ := List.exists_cons_of_length_eq_add_one counted
  refine ⟨n, counts, eq, ?_⟩
  rw [eq, List.length_cons] at counted
  omega

theorem paren_total {m : Masker} (counted : m.Counted) (c : Char) (rest : List Char) :
    ∃ s, m.paren c rest = .ok s := by
  unfold paren
  split
  · rename_i outer inside
    obtain ⟨n, counts, eq, _⟩ := counted_count counted inside
    simp only [countParen, count, eq, dropCount, Except.bind, pop, inside]
    split <;> exact ⟨_, rfl⟩
  · exact ⟨_, rfl⟩

theorem code_step_total {m : Masker} (counted : m.Counted) (c : Char) (cs : List Char) :
    ∃ s, m.codeStep c cs = .ok s := by
  unfold codeStep
  split
  case h_5 => exact paren_total counted _ _
  case h_6 => exact paren_total counted _ _
  all_goals exact ⟨_, rfl⟩

theorem comment_step_total {m : Masker} {outer : List Construct}
    (inside : m.stack = .comment :: outer) (c : Char) (cs : List Char) :
    ∃ s, m.commentStep c cs = .ok s := by
  unfold commentStep
  split
  · exact ⟨_, rfl⟩
  · simp only [closeComment, pop, inside, Except.map]
    split <;> exact ⟨_, rfl⟩
  · exact ⟨_, rfl⟩

theorem literal_step_total {m : Masker} {literal : Construct} {outer : List Construct}
    (inside : m.stack = literal :: outer) (c : Char) (cs : List Char) :
    ∃ s, m.literalStep literal c cs = .ok s := by
  unfold literalStep
  split
  · exact ⟨_, rfl⟩
  · exact ⟨_, rfl⟩
  · simp only [pop, inside, Except.map]
    split <;> exact ⟨_, rfl⟩

theorem step_total {m : Masker} (counted : m.Counted) (c : Char) (cs : List Char) :
    ∃ s, m.step c cs = .ok s := by
  unfold Masker.step
  split
  · exact comment_step_total ‹_› c cs
  · exact literal_step_total ‹_› c cs
  · exact literal_step_total ‹_› c cs
  · exact code_step_total counted c cs

theorem takes_counted {m : Masker} {raw : List Char} {s : MaskStep} (takes : m.Takes raw s)
    (counted : m.Counted) : s.after.Counted := by
  cases takes with
  | closeInterpolation inside eq isParen last =>
    obtain ⟨n, counts, eq', length⟩ := counted_count counted inside
    rw [eq] at eq'
    cases eq'
    exact length
  | countParen inside eq isParen more =>
    simp only [Counted, eq, List.length_cons] at counted ⊢
    exact counted
  | openInterpolation inside isLiteral =>
    simp only [Counted, Masker.openInterpolation, List.length_cons, List.count_cons_self]
    exact congrArg (· + 1) counted
  | closeComment inside last => simpa [Counted, inside] using counted
  | closeString inside => simpa [Counted, inside] using counted
  | closeTextBlock inside => simpa [Counted, inside] using counted
  | openComment => simpa [Counted] using counted
  | openTextBlock => simpa [Counted, push] using counted
  | openString => simpa [Counted, push] using counted
  | _ => exact counted

theorem run_total {m : Masker} (counted : m.Counted) (raw : List Char) :
    ∃ shown last, m.run raw = .ok (shown, last) ∧ last.Counted := by
  induction h : raw.length using Nat.strongRecOn generalizing m raw with
  | ind n ih =>
    cases raw with
    | nil => exact ⟨[], m, run_nil m, counted⟩
    | cons c cs =>
      obtain ⟨s, step⟩ := step_total counted c cs
      have takes := takes_of_step step
      obtain ⟨shown, last, run, kept⟩ :=
        ih _ (h ▸ takes_rest takes) (takes_counted takes counted) s.rest rfl
      exact ⟨s.shown ++ shown, last, by rw [run_of_takes takes, run]; rfl, kept⟩

theorem cut_append (stack : List Construct) : (cut stack).1 ++ (cut stack).2 = stack := by
  induction stack with
  | nil => rfl
  | cons c outer ih =>
    unfold cut
    split
    · simp only [List.cons_append, ih]
    · rfl

theorem cut_without_string {stack : List Construct} (noString : Construct.string ∉ stack) :
    cut stack = ([], stack) := by
  cases stack with
  | nil => rfl
  | cons c outer => rw [cut, if_neg noString]

theorem end_line_counted {m : Masker} (counted : m.Counted) : m.endLine.Counted := by
  have parts := congrArg (List.count Construct.interpolation) (cut_append m.stack)
  rw [List.count_append] at parts
  simp only [Counted, endLine, List.length_drop] at counted ⊢
  omega

theorem mask_total {m : Masker} (counted : m.Counted) (raw : List Char) :
    ∃ code next, m.mask raw = .ok (code, next) ∧ next.Counted := by
  obtain ⟨shown, last, run, kept⟩ := run_total counted raw
  exact ⟨shown, last.endLine, by rw [mask, run]; rfl, end_line_counted kept⟩

theorem trace_total {m : Masker} (counted : m.Counted) (raws : List (List Char)) :
    ∃ steps, m.trace raws = .ok steps := by
  induction raws generalizing m with
  | nil => exact ⟨[], rfl⟩
  | cons raw rest ih =>
    obtain ⟨code, next, mask, kept⟩ := mask_total counted raw
    obtain ⟨steps, more⟩ := ih kept
    exact ⟨(code, next) :: steps, by simp only [trace, mask, more, Except.map]⟩

def codes (m : Masker) (counted : m.Counted) (raws : List (List Char)) : List (List Char) :=
  match traced : m.trace raws with
  | .ok steps => steps.map Prod.fst
  | .error _ => absurd (trace_total counted raws) (by simp [traced])

theorem codes_eq {m : Masker} {counted : m.Counted} {raws : List (List Char)}
    {steps : List (List Char × Masker)} (trace : m.trace raws = .ok steps) :
    m.codes counted raws = steps.map Prod.fst := by
  unfold codes
  split
  · rename_i found traced
    rw [trace] at traced
    cases traced
    rfl
  · rename_i fault failed
    rw [trace] at failed
    cases failed

end Masker

/-- Lines beside their masked forms, numbered from the number given. -/
def numbered (number : Nat) (raws codes : List (List Char)) : List Line :=
  match raws, codes with
  | raw :: raws, code :: codes => ⟨number, raw, code⟩ :: numbered (number + 1) raws codes
  | _, _ => []

/-- The lines of a source text, numbered from 1 and masked. -/
def sourceLines (text : List Char) : List Line :=
  let raws := splitLines text
  numbered 1 raws (Masker.start.codes Masker.start_counted raws)

end LineLint
