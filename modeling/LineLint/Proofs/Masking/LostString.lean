import LineLint.Proofs.Masking.Resting
import Mathlib.Data.List.Basic

/- A string that is open at the end of its line is taken back: what is open after the line, and the counts
   of parentheses, are what they were before the quote that opened it. Nothing that is opened in the string
   reaches down to what is around it. -/
namespace LineLint.Masker

/-- On its way through a text, masking comes to a masker before what is left of the text. -/
inductive Passes : Masker → List Char → Masker → List Char → Prop where
  | here (m : Masker) (raw : List Char) : Passes m raw m raw
  | step {m now : Masker} {raw left : List Char} {s : MaskStep} (takes : m.Takes raw s)
      (later : Passes s.after s.rest now left) : Passes m raw now left

theorem takes_unique {m : Masker} {raw : List Char} {s t : MaskStep} (one : m.Takes raw s)
    (other : m.Takes raw t) : s = t := by
  cases raw with
  | nil => cases one
  | cons c cs => exact Except.ok.inj ((step_of_takes one).symm.trans (step_of_takes other))

theorem runs_from {m now last : Masker} {raw left shown : List Char} (passes : Passes m raw now left)
    (runs : Runs m raw shown last) : ∃ more, Runs now left more last := by
  induction passes generalizing shown with
  | here m raw => exact ⟨shown, runs⟩
  | step takes _ ih =>
    cases runs with
    | done => cases takes
    | step takes' rest =>
      rw [takes_unique takes' takes] at rest
      exact ih rest

theorem takes_stack {m : Masker} {raw : List Char} {s : MaskStep} (takes : m.Takes raw s) :
    s.after.stack = m.stack ∨ (∃ c, s.after.stack = c :: m.stack) ∨
      ∃ c, m.stack = c :: s.after.stack := by
  cases takes with
  | openComment => exact .inr (.inl ⟨_, rfl⟩)
  | openTextBlock => exact .inr (.inl ⟨_, rfl⟩)
  | openString => exact .inr (.inl ⟨_, rfl⟩)
  | openInterpolation => exact .inr (.inl ⟨_, rfl⟩)
  | closeInterpolation inside => exact .inr (.inr ⟨_, inside⟩)
  | closeComment inside => exact .inr (.inr ⟨_, inside⟩)
  | closeString inside => exact .inr (.inr ⟨_, inside⟩)
  | closeTextBlock inside => exact .inr (.inr ⟨_, inside⟩)
  | _ => exact .inl rfl

theorem takes_opening {m : Masker} {raw : List Char} {s : MaskStep} (takes : m.Takes raw s)
    (free : Construct.string ∉ m.stack) (opened : Construct.string ∈ s.after.stack) :
    ∃ rest, raw = '"' :: rest ∧ s = ⟨['"'], rest, m.push .string⟩ := by
  cases takes with
  | openString => exact ⟨_, rfl, rfl⟩
  | openComment => simp [free] at opened
  | openTextBlock => simp [push, free] at opened
  | openInterpolation => simp [openInterpolation, free] at opened
  | closeInterpolation inside => simp [inside, opened] at free
  | closeComment inside => simp [inside, opened] at free
  | closeString inside => simp [inside, opened] at free
  | closeTextBlock inside => simp [inside, opened] at free
  | _ => exact absurd opened free

/-- The quote before `rest` opens a string in `before`, outside of every other string, and that string is
    still open at the end of the line. -/
structure LosesString (m : Masker) (raw : List Char) (before : Masker) (rest : List Char) : Prop where
  passes : Passes m raw before ('"' :: rest)
  opens : before.Takes ('"' :: rest) ⟨['"'], rest, before.push .string⟩
  outermost : Construct.string ∉ before.stack
  stays : ∀ later left, Passes (before.push .string) rest later left →
    .string :: before.stack <:+ later.stack

theorem last_without_string {m last : Masker} {raw shown : List Char} (runs : Runs m raw shown last)
    (lost : Construct.string ∈ last.stack)
    (free : ∃ now left, Passes m raw now left ∧ Construct.string ∉ now.stack) :
    ∃ before rest, Passes m raw before ('"' :: rest) ∧
      before.Takes ('"' :: rest) ⟨['"'], rest, before.push .string⟩ ∧
      Construct.string ∉ before.stack ∧
      ∀ later left, Passes (before.push .string) rest later left →
        Construct.string ∈ later.stack := by
  induction runs with
  | done m =>
    obtain ⟨now, left, passes, free⟩ := free
    cases passes with
    | here => exact absurd lost free
    | step takes => cases takes
  | @step m last raw shown s takes _ ih =>
    -- Either some later masker has no string open, or this one is the last of them.
    by_cases later : ∃ now left, Passes s.after s.rest now left ∧ Construct.string ∉ now.stack
    · obtain ⟨before, rest, passes, moment⟩ := ih lost later
      exact ⟨before, rest, .step takes passes, moment⟩
    · have all : ∀ now left, Passes s.after s.rest now left → Construct.string ∈ now.stack :=
        fun now left passes => Decidable.not_not.mp fun free => later ⟨now, left, passes, free⟩
      have here : Construct.string ∉ m.stack := by
        obtain ⟨now, left, passes, free⟩ := free
        cases passes with
        | here => exact free
        | step takes' after =>
          rw [takes_unique takes' takes] at after
          exact absurd (all now left after) free
      obtain ⟨rest, rfl, rfl⟩ := takes_opening takes here (all _ _ (.here _ _))
      exact ⟨m, rest, .here m _, takes, here, all⟩

theorem takes_keeps {m : Masker} {raw : List Char} {s : MaskStep} {outer : List Construct}
    (takes : m.Takes raw s) (outermost : Construct.string ∉ outer)
    (opened : Construct.string ∈ s.after.stack) (kept : .string :: outer <:+ m.stack) :
    .string :: outer <:+ s.after.stack := by
  rcases takes_stack takes with same | ⟨c, pushed⟩ | ⟨c, popped⟩
  · rwa [same]
  · rw [pushed]
    exact kept.trans (List.suffix_cons c m.stack)
  · rw [popped, List.suffix_cons_iff] at kept
    rcases kept with whole | kept
    · rw [← (List.cons.inj whole).2] at opened
      exact absurd opened outermost
    · exact kept

theorem passes_keeps {m now : Masker} {raw left : List Char} {outer : List Construct}
    (passes : Passes m raw now left) (outermost : Construct.string ∉ outer)
    (open_ : ∀ later left', Passes m raw later left' → Construct.string ∈ later.stack)
    (kept : .string :: outer <:+ m.stack) : .string :: outer <:+ now.stack := by
  induction passes with
  | here => exact kept
  | step takes _ ih =>
    have after := open_ _ _ (.step takes (.here _ _))
    exact ih (fun later left' passes => open_ later left' (.step takes passes))
      (takes_keeps takes outermost after kept)

theorem lost_string_exists {m last : Masker} {raw shown : List Char} (runs : Runs m raw shown last)
    (lost : Construct.string ∈ last.stack) (free : Construct.string ∉ m.stack) :
    ∃ before rest, LosesString m raw before rest := by
  obtain ⟨before, rest, passes, opens, outermost, open_⟩ :=
    last_without_string runs lost ⟨m, raw, .here m raw, free⟩
  refine ⟨before, rest, passes, opens, outermost, fun later left onward => ?_⟩
  exact passes_keeps onward outermost open_ (List.suffix_refl _)

/-- Above a string that was opened in `base` there are further constructs, and counts for the
    interpolations among them; what is below is as it was. -/
def Above (base m : Masker) : Prop :=
  ∃ inner counts, m.stack = inner ++ .string :: base.stack ∧ m.parens = counts ++ base.parens ∧
    counts.length = inner.count .interpolation

theorem above_pop {base : Masker} {inner outer : List Construct} {c : Construct}
    (above : c :: outer = inner ++ .string :: base.stack)
    (stays : .string :: base.stack <:+ outer) :
    ∃ inner', inner = c :: inner' ∧ outer = inner' ++ .string :: base.stack := by
  cases inner with
  | nil =>
    -- What is taken off would be the string itself.
    have longer := stays.length_le
    rw [(List.cons.inj above).2, List.length_cons] at longer
    omega
  | cons d inner =>
    obtain ⟨rfl, rfl⟩ := List.cons.inj above
    exact ⟨inner, rfl, rfl⟩

theorem above_count {base m : Masker} {outer : List Construct} {n : Int} {counts : List Int}
    (above : Above base m) (inside : m.stack = .interpolation :: outer)
    (counted : m.parens = n :: counts) :
    ∃ inner counts', outer = inner ++ .string :: base.stack ∧ counts = counts' ++ base.parens ∧
      counts'.length = inner.count .interpolation := by
  obtain ⟨inner, counts', stack, parens, length⟩ := above
  rw [inside] at stack
  cases inner with
  | nil => cases stack
  | cons d inner =>
    obtain ⟨rfl, rfl⟩ := List.cons.inj stack
    rw [List.count_cons_self] at length
    obtain ⟨k, counts', rfl⟩ := List.exists_cons_of_length_eq_add_one length
    rw [counted] at parens
    exact ⟨inner, counts', rfl, (List.cons.inj parens).2, Nat.succ.inj length⟩

theorem takes_above {base m : Masker} {raw : List Char} {s : MaskStep} (takes : m.Takes raw s)
    (above : Above base m) (stays : .string :: base.stack <:+ s.after.stack) :
    Above base s.after := by
  have opened {c : Construct} (other : c ≠ .interpolation) {depth : Int} :
      Above base ⟨c :: m.stack, m.parens, depth⟩ := by
    obtain ⟨inner, counts, stack, parens, length⟩ := above
    exact ⟨c :: inner, counts, by rw [stack]; rfl, parens, by rw [List.count_cons_of_ne other, length]⟩
  have closed {c : Construct} {outer : List Construct} (inside : m.stack = c :: outer)
      (other : c ≠ .interpolation) {depth : Int} (stays : .string :: base.stack <:+ outer) :
      Above base ⟨outer, m.parens, depth⟩ := by
    obtain ⟨inner, counts, stack, parens, length⟩ := above
    rw [inside] at stack
    obtain ⟨inner, rfl, rfl⟩ := above_pop stack stays
    rw [List.count_cons_of_ne other] at length
    exact ⟨inner, counts, rfl, parens, length⟩
  cases takes with
  | openComment => exact opened (by decide)
  | openTextBlock => exact opened (by decide)
  | openString => exact opened (by decide)
  | closeComment inside => exact closed inside (by decide) stays
  | closeString inside => exact closed inside (by decide) stays
  | closeTextBlock inside => exact closed inside (by decide) stays
  | openInterpolation =>
    obtain ⟨inner, counts, stack, parens, length⟩ := above
    refine ⟨.interpolation :: inner, 1 :: counts, ?_, ?_, ?_⟩
    · simp [openInterpolation, stack]
    · simp [openInterpolation, parens]
    · rw [List.length_cons, List.count_cons_self, length]
  | @countParen c rest outer n counts inside counted isParen more =>
    obtain ⟨inner, counts', rfl, rfl, length⟩ := above_count above inside counted
    refine ⟨.interpolation :: inner, (n + change c) :: counts', inside, rfl, ?_⟩
    rw [List.length_cons, List.count_cons_self, length]
  | closeInterpolation inside counted => exact above_count above inside counted
  | _ => exact above

theorem runs_above {base m last : Masker} {raw shown : List Char} (runs : Runs m raw shown last)
    (above : Above base m)
    (stays : ∀ later left, Passes m raw later left → .string :: base.stack <:+ later.stack) :
    Above base last := by
  induction runs with
  | done => exact above
  | step takes _ ih =>
    have after := stays _ _ (.step takes (.here _ _))
    exact ih (takes_above takes above after) fun later left passes =>
      stays later left (.step takes passes)

theorem cut_at_string {outer : List Construct} (outermost : Construct.string ∉ outer)
    (inner : List Construct) : cut (inner ++ .string :: outer) = (inner ++ [.string], outer) := by
  induction inner with
  | nil => simp [cut, cut_without_string outermost]
  | cons c inner ih => simp [cut, ih]

theorem end_line_above {base m : Masker} (above : Above base m)
    (outermost : Construct.string ∉ base.stack) :
    m.endLine.stack = base.stack ∧ m.endLine.parens = base.parens := by
  obtain ⟨inner, counts, stack, parens, length⟩ := above
  have count : (inner ++ [Construct.string]).count .interpolation = counts.length := by
    simp [length]
  have ended := cut_at_string outermost inner
  simp only [endLine, stack, ended, count, parens, List.drop_left, and_self]

theorem lost_string_base {m last before : Masker} {raw shown rest : List Char}
    (runs : Runs m raw shown last) (loses : LosesString m raw before rest) : Above before last := by
  obtain ⟨more, fromQuote⟩ := runs_from loses.passes runs
  have fromString := runs_from (.step loses.opens (.here _ _)) fromQuote
  obtain ⟨more', inString⟩ := fromString
  exact runs_above inString ⟨[], [], rfl, rfl, rfl⟩ loses.stays

theorem cut_free (stack : List Construct) : Construct.string ∉ (cut stack).2 := by
  induction stack with
  | nil => exact List.not_mem_nil
  | cons c outer ih =>
    by_cases ends : Construct.string ∈ c :: outer
    · rwa [cut_keeps ends]
    · rwa [cut_without_string ends]

theorem reached_free {m : Masker} (reached : m.Reached) : Construct.string ∉ m.stack := by
  cases reached with
  | fresh => exact List.not_mem_nil
  | mask _ masked =>
    obtain ⟨last, _, rfl⟩ := mask_eq_ok masked
    exact cut_free last.stack

/-- If a string is open where a line ends, then one of its quotes opened the outermost such string, and
    after the line the open constructs and the counts are those before that quote. -/
theorem lost_string_undone {m last : Masker} {raw shown : List Char} (reached : m.Reached)
    (run : m.run raw = .ok (shown, last)) (lost : Construct.string ∈ last.stack) :
    ∃ after, m.mask raw = .ok (shown, after) ∧ (∃ before rest, LosesString m raw before rest) ∧
      ∀ before rest, LosesString m raw before rest →
        after.stack = before.stack ∧ after.parens = before.parens := by
  have runs := runs_of_run run
  refine ⟨last.endLine, mask_of_runs runs, lost_string_exists runs lost (reached_free reached), ?_⟩
  intro before rest loses
  exact end_line_above (lost_string_base runs loses) loses.outermost

def inInterpolation : Masker := ⟨[.interpolation, .textBlock], [2], 0⟩

/-- One parenthesis is closed; then a string is opened, and in it an interpolation, a parenthesis, a text
    block, a further interpolation and a comment. -/
def deepLine : List Char := ") \"\\(c(\"d\" + \"\"\" \\(/*".toList

theorem deep_lost_string_undone :
    inInterpolation.Reached ∧
    ∃ shown last, inInterpolation.run deepLine = .ok (shown, last) ∧
      last.stack = [.comment, .interpolation, .textBlock, .interpolation, .string, .interpolation,
        .textBlock] ∧
      last.parens = [1, 2, 1] ∧
      ∃ after, inInterpolation.mask deepLine = .ok (shown, after) ∧
        after.stack = [.interpolation, .textBlock] ∧ after.parens = [1] ∧
        ∃ before rest, LosesString inInterpolation deepLine before rest ∧
          before.stack = [.interpolation, .textBlock] ∧ before.parens = [1] := by
  have opened : start.mask "\"\"\"".toList = .ok ("\"\"\"".toList, ⟨[.textBlock], [], 0⟩) := by
    decide +kernel
  have within : (Masker.mk [.textBlock] [] 0).mask "\\(a(".toList =
      .ok ("  a(".toList, inInterpolation) := by decide +kernel
  have reached : inInterpolation.Reached := .mask (.mask .fresh opened) within
  let last : Masker := ⟨[.comment, .interpolation, .textBlock, .interpolation, .string,
    .interpolation, .textBlock], [1, 2, 1], 1⟩
  have run : inInterpolation.run deepLine =
      .ok (") \"  c(\" \" + \"\"\"   /*".toList, last) := by decide +kernel
  obtain ⟨after, masked, ⟨before, rest, loses⟩, undone⟩ :=
    lost_string_undone reached run (by simp [last])
  have same := undone before rest loses
  have computed : inInterpolation.mask deepLine =
      .ok (") \"  c(\" \" + \"\"\"   /*".toList, ⟨[.interpolation, .textBlock], [1], 1⟩) := by
    decide +kernel
  cases masked.symm.trans computed
  exact ⟨reached, _, last, run, rfl, rfl, _, masked, rfl, rfl, before, rest, loses, same.1.symm,
    same.2.symm⟩

end LineLint.Masker
