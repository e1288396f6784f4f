import LineLint.Proofs.Masking.Columns

/- Masking what is masked. Where no interpolation is opened, masked lines are masked to themselves, with
   the same constructs open after each line. Blanks in a literal or a comment are read as its text, and
   delimiters as before; only the depth of a comment differs, as nested comments are blanked. -/
namespace LineLint.Masker

structure Echoes (m again : Masker) : Prop where
  stack : again.stack = m.stack
  flat : Construct.interpolation ∉ m.stack
  depth : m.stack.head? = some .comment → again.commentDepth = 1

def Repeats (again : Masker) (shown code : List Char) (next : Masker) : Prop :=
  ∀ more last, Runs next code more last → Runs again (shown ++ code) (shown ++ more) last

theorem repeats_take {again next : Masker} {shown code : List Char}
    (takes : again.Takes (shown ++ code) ⟨shown, code, next⟩) : Repeats again shown code next :=
  fun _ _ runs => .step takes runs

theorem space_takes {m : Masker} {c : Construct} {outer : List Construct} (inside : m.stack = c :: outer)
    (hides : c ≠ .interpolation) (rest : List Char) : m.Takes (' ' :: rest) ⟨[' '], rest, m⟩ := by
  cases c with
  | interpolation => exact absurd rfl hides
  | comment => exact .commentText inside (by simp [BoundsComment])
  | string => exact .literalText inside rfl (by decide) (by simp [ClosesLiteral])
  | textBlock => exact .literalText inside rfl (by decide) (by simp [ClosesLiteral])

theorem space_repeats {again : Masker} {c : Construct} {outer : List Construct}
    (inside : again.stack = c :: outer) (hides : c ≠ .interpolation) (code : List Char) :
    Repeats again [' '] code again := repeats_take (space_takes inside hides code)

theorem spaces_repeat {again : Masker} {c : Construct} {outer : List Construct}
    (inside : again.stack = c :: outer) (hides : c ≠ .interpolation) (code : List Char) :
    Repeats again [' ', ' '] code again := fun more last runs =>
  space_repeats inside hides (' ' :: code) _ _ (space_repeats inside hides code more last runs)

theorem echoes_flat {m again : Masker} {c : Construct} {outer : List Construct} (echoes : Echoes m again)
    (inside : m.stack = c :: outer) : c ≠ .interpolation := by
  rintro rfl
  exact echoes.flat (by rw [inside]; exact List.mem_cons_self)

theorem echoes_in_code {m again : Masker} (echoes : Echoes m again) (code : m.InCode) :
    m.stack = [] ∧ again.InCode := by
  have empty : m.stack = [] := code.resolve_right fun ⟨_, inside⟩ => echoes_flat echoes inside rfl
  exact ⟨empty, .inl (echoes.stack.trans empty)⟩

theorem echoes_push {m again : Masker} {c : Construct} (echoes : Echoes m again)
    (other : c ≠ .interpolation) {depth depth' : Int} (deep : c = .comment → depth' = 1) :
    Echoes ⟨c :: m.stack, m.parens, depth⟩ ⟨c :: again.stack, again.parens, depth'⟩ where
  stack := by rw [echoes.stack]
  flat := by simpa [Ne.symm other] using echoes.flat
  depth := by simpa using deep

theorem echoes_pop {m again : Masker} {c : Construct} {outer : List Construct} (echoes : Echoes m again)
    (sound : m.Sound) (inside : m.stack = c :: outer) {depth depth' : Int} :
    Echoes ⟨outer, m.parens, depth⟩ ⟨outer, again.parens, depth'⟩ where
  stack := rfl
  flat := fun member => echoes.flat (by rw [inside]; exact List.mem_cons_of_mem c member)
  depth := by
    -- Under a literal or a comment there is code, and so no comment.
    have layers := nested_outer (inside ▸ sound.nested) (echoes_flat echoes inside)
    exact fun head => absurd head (layers_head layers)

theorem veiled_opens_comment {c : Char} {raw code : List Char} (veiled : List.Forall₂ Veils raw code)
    (opens : OpensComment c code) : OpensComment c raw := by
  have head {d : Char} (visible : ' ' ∉ [d]) (next : code.head? = some d) : raw.head? = some d := by
    obtain ⟨rest, rfl⟩ := List.head?_eq_some_iff.mp next
    obtain ⟨more, rfl⟩ := veiled_begins veiled visible (List.prefix_append [d] rest)
    rfl
  exact opens.imp_right (Or.imp (head (by decide)) (head (by decide)))

theorem takes_again {m again : Masker} {raw code : List Char} {s : MaskStep} (takes : m.Takes raw s)
    (sound : m.Sound) (echoes : Echoes m again) (plain : ¬ ['\\', '('] <+: raw)
    (veiled : List.Forall₂ Veils s.rest code) :
    ∃ next, Repeats again s.shown code next ∧ Echoes s.after next := by
  have within {c : Construct} {outer : List Construct} (inside : m.stack = c :: outer) :
      again.stack = c :: outer ∧ c ≠ .interpolation :=
    ⟨echoes.stack.trans inside, echoes_flat echoes inside⟩
  cases takes with
  | @lineComment rest inCode =>
    cases veiled
    have masked : blanks (blanks rest) = blanks rest := by simp [blanks]
    have repeated : again.Takes ('/' :: '/' :: blanks rest) _ :=
      .lineComment (echoes_in_code echoes inCode).2
    rw [masked] at repeated
    exact ⟨again, repeats_take (by rwa [List.append_nil]), echoes⟩
  | openComment inCode =>
    exact ⟨_, repeats_take (.openComment (echoes_in_code echoes inCode).2),
      echoes_push echoes (by decide) fun _ => rfl⟩
  | openTextBlock inCode =>
    exact ⟨_, repeats_take (.openTextBlock (echoes_in_code echoes inCode).2),
      echoes_push echoes (by decide) (by simp)⟩
  | openString inCode single =>
    -- Masking adds no quotes, so those of a text block would stand in the raw line.
    have single' : ¬ ['"', '"'] <+: code := fun opens =>
      single (veiled_begins veiled (by decide) opens)
    exact ⟨_, repeats_take (.openString (echoes_in_code echoes inCode).2 single'),
      echoes_push echoes (by decide) (by simp)⟩
  | countParen inside => exact absurd rfl (echoes_flat echoes inside)
  | closeInterpolation inside => exact absurd rfl (echoes_flat echoes inside)
  | plain inCode unquoted noComment uncounted =>
    obtain ⟨empty, inCode'⟩ := echoes_in_code echoes inCode
    refine ⟨again, repeats_take (.plain inCode' unquoted ?_ (.inl (echoes.stack.trans empty))), echoes⟩
    exact fun opens => noComment (veiled_opens_comment veiled opens)
  | nestComment inside =>
    -- The delimiter is blanked, so that the second run reads on in the comment, no deeper than it was.
    obtain ⟨inside', other⟩ := within inside
    exact ⟨again, spaces_repeat inside' other code, echoes.stack, echoes.flat, echoes.depth⟩
  | closeNested inside deep =>
    obtain ⟨inside', other⟩ := within inside
    exact ⟨again, spaces_repeat inside' other code, echoes.stack, echoes.flat, echoes.depth⟩
  | closeComment inside last =>
    have single : again.commentDepth - 1 = 0 := by rw [echoes.depth (by rw [inside]; rfl)]; rfl
    exact ⟨_, repeats_take (.closeComment (within inside).1 single), echoes_pop echoes sound inside⟩
  | commentText inside ordinary =>
    obtain ⟨inside', other⟩ := within inside
    exact ⟨again, space_repeats inside' other code, echoes⟩
  | @openInterpolation rest => exact absurd (List.prefix_append ['\\', '('] rest) plain
  | escape inside =>
    obtain ⟨inside', other⟩ := within inside
    exact ⟨again, spaces_repeat inside' other code, echoes⟩
  | loneBackslash inside =>
    obtain ⟨inside', other⟩ := within inside
    exact ⟨again, space_repeats inside' other code, echoes⟩
  | closeString inside =>
    exact ⟨_, repeats_take (.closeString (within inside).1), echoes_pop echoes sound inside⟩
  | closeTextBlock inside =>
    exact ⟨_, repeats_take (.closeTextBlock (within inside).1), echoes_pop echoes sound inside⟩
  | literalText inside =>
    obtain ⟨inside', other⟩ := within inside
    exact ⟨again, space_repeats inside' other code, echoes⟩

theorem runs_again {m again last : Masker} {raw code : List Char} (runs : Runs m raw code last)
    (sound : m.Sound) (echoes : Echoes m again) (plain : ¬ ['\\', '('] <:+: raw) :
    ∃ next, Runs again code code next ∧ Echoes last next := by
  induction runs generalizing again with
  | done => exact ⟨again, .done again, echoes⟩
  | @step m last raw shown s takes rest ih =>
    have first : ¬ ['\\', '('] <+: raw := fun opens => plain opens.isInfix
    have later : ¬ ['\\', '('] <:+: s.rest := fun opens =>
      plain (opens.trans (takes_suffix takes).isInfix)
    obtain ⟨next, repeats, echoes⟩ := takes_again takes sound echoes first (runs_veil rest)
    obtain ⟨last', runs, echoes⟩ := ih (takes_sound takes sound) echoes later
    exact ⟨last', repeats _ _ runs, echoes⟩

theorem end_line_echoes {m again : Masker} (sound : m.Sound) (echoes : Echoes m again) :
    Echoes m.endLine again.endLine where
  stack := by simp only [endLine, echoes.stack]
  flat := by
    intro member
    apply echoes.flat
    rw [← cut_append m.stack]
    exact List.mem_append_right _ member
  depth := by
    intro head
    rcases cut_nested sound.nested with layers | ⟨whole, _⟩
    · exact absurd head (layers_head layers)
    · exact echoes.depth (by simpa only [endLine, whole] using head)

theorem trace_again {m again : Masker} {raws : List (List Char)} {steps : List (List Char × Masker)}
    (trace : m.trace raws = .ok steps) (sound : m.Sound) (echoes : Echoes m again)
    (plain : ∀ raw ∈ raws, ¬ ['\\', '('] <:+: raw) :
    ∃ steps', again.trace (steps.map Prod.fst) = .ok steps' ∧
      steps'.map Prod.fst = steps.map Prod.fst ∧
      steps'.map (fun step => step.2.stack) = steps.map fun step => step.2.stack := by
  induction raws generalizing m again steps with
  | nil => cases trace; exact ⟨[], rfl, rfl, rfl⟩
  | cons raw rest ih =>
    obtain ⟨code, next, more, mask, after, rfl⟩ := trace_cons_ok trace
    obtain ⟨last, runs, rfl⟩ := mask_eq_ok mask
    obtain ⟨first, others⟩ := List.forall_mem_cons.mp plain
    obtain ⟨last', runs', lastEchoes⟩ := runs_again runs sound echoes first
    have atEnd := runs_sound runs sound
    have nextEchoes := end_line_echoes atEnd lastEchoes
    obtain ⟨more', after', codes, kept⟩ := ih after (end_line_sound atEnd) nextEchoes others
    refine ⟨(code, last'.endLine) :: more', trace_cons (mask_of_runs runs') after', ?_, ?_⟩
    · rw [List.map_cons, List.map_cons, codes]
    · rw [List.map_cons, List.map_cons, kept, nextEchoes.stack]

theorem start_echoes : Echoes start start where
  stack := rfl
  flat := List.not_mem_nil
  depth := by simp [start]

/-- Lines without the two characters that open an interpolation are masked to lines that are masked to
    themselves, with the same constructs open after every line. -/
theorem masked_lines_fixed (raws : List (List Char)) (plain : ∀ raw ∈ raws, ¬ ['\\', '('] <:+: raw) :
    ∃ steps steps', start.trace raws = .ok steps ∧ start.trace (steps.map Prod.fst) = .ok steps' ∧
      steps'.map Prod.fst = steps.map Prod.fst ∧
      steps'.map (fun step => step.2.stack) = steps.map fun step => step.2.stack := by
  obtain ⟨steps, trace⟩ := trace_total start_counted raws
  obtain ⟨steps', trace', codes, kept⟩ := trace_again trace start_sound start_echoes plain
  exact ⟨steps, steps', trace, trace', codes, kept⟩

/-- A string that holds an escaped quote and a comment, a nested comment that goes on in the next line, a
    string that is not closed, a text block that holds quotes, and backslashes apart from parentheses. -/
def sampleLines : List (List Char) :=
  ["a \"\\\" // \" \"\" /* b /*/ c".toList, "*/ \" */ \"d /* \\".toList,
    "\"\"\" \" \\\"\"\" e".toList, "f\"\"\"\" \\ ( // g".toList, "h // \\ (".toList]

def sampleSteps : List (List Char × Masker) :=
  [("a \"      \" \"\" /*        ".toList, ⟨[.comment], [], 2⟩),
    ("     */ \"      ".toList, ⟨[], [], 0⟩), ("\"\"\"         ".toList, ⟨[.textBlock], [], 0⟩),
    (" \"\"\"\"         ".toList, ⟨[], [], 0⟩), ("h //    ".toList, ⟨[], [], 0⟩)]

theorem sample_lines_fixed :
    (∀ raw ∈ sampleLines, ¬ ['\\', '('] <:+: raw) ∧ start.trace sampleLines = .ok sampleSteps ∧
    ∃ steps', start.trace (sampleSteps.map Prod.fst) = .ok steps' ∧
      steps'.map Prod.fst = sampleSteps.map Prod.fst ∧
      steps'.map (fun step => step.2.stack) = [[.comment], [], [.textBlock], [], []] := by
  have plain : ∀ raw ∈ sampleLines, ¬ ['\\', '('] <:+: raw := by decide +kernel
  have traced : start.trace sampleLines = .ok sampleSteps := by decide +kernel
  obtain ⟨steps, steps', trace, trace', codes, kept⟩ := masked_lines_fixed sampleLines plain
  cases trace.symm.trans traced
  exact ⟨plain, traced, steps', trace', codes, kept⟩

end LineLint.Masker
