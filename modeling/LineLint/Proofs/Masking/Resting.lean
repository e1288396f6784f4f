import LineLint.Proofs.Masking.Invariant

/- Between lines. The end of a line drops the outermost open string with everything opened after it,
   so that only text blocks, interpolations in them and a comment stay open. -/
namespace LineLint.Masker

def IsTextBlock (c : Construct) : Prop := c = .textBlock

/-- Outermost first, text blocks each with an interpolation open in it, and then nothing, a text
    block or a comment. A count of at least one is kept for each interpolation, and an open comment
    has a depth of at least one. -/
structure Resting (m : Masker) : Prop where
  shape : ∃ n : Nat, ∃ top ∈ [[], [Construct.textBlock], [Construct.comment]],
    m.stack.reverse = (List.replicate n [.textBlock, .interpolation]).flatten ++ top
  counted : m.parens.length = m.stack.count .interpolation
  positive : ∀ n ∈ m.parens, 1 ≤ n
  deep : m.stack.head? = some .comment → 1 ≤ m.commentDepth

theorem literal_without_string {c : Construct} (kind : IsLiteral c) (noString : c ≠ .string) :
    IsTextBlock c := by
  cases c with
  | textBlock => rfl
  | string => exact absurd rfl noString
  | comment => simp [IsLiteral, Construct.isLiteral] at kind
  | interpolation => simp [IsLiteral, Construct.isLiteral] at kind

theorem layers_without_string {stack : List Construct} (layers : Layers IsLiteral stack)
    (noString : Construct.string ∉ stack) : Layers IsTextBlock stack := by
  induction layers with
  | nil => exact .nil
  | @cons c outer kind _ ih =>
    simp only [List.mem_cons, not_or] at noString
    exact .cons (literal_without_string kind (Ne.symm noString.2.1)) (ih noString.2.2)

theorem cut_keeps {c : Construct} {outer : List Construct} (ends : Construct.string ∈ c :: outer) :
    (cut (c :: outer)).2 = (cut outer).2 := by
  rw [cut, if_pos ends]

theorem cut_layers {stack : List Construct} (layers : Layers IsLiteral stack) :
    Layers IsTextBlock (cut stack).2 := by
  induction layers with
  | nil => exact .nil
  | @cons c outer kind around ih =>
    by_cases ends : Construct.string ∈ c :: outer
    · rwa [cut_keeps (List.mem_cons_of_mem _ ends), cut_keeps ends]
    · have noString : Construct.string ∉ .interpolation :: c :: outer := by simpa using ends
      rw [cut_without_string noString]
      exact layers_without_string (.cons kind around) noString

theorem cut_nested {stack : List Construct} (nested : Nested IsLiteral stack) :
    Layers IsTextBlock (cut stack).2 ∨ (cut stack).2 = stack ∧ Nested IsTextBlock stack := by
  rcases nested with layers | ⟨c, outer, rfl, kind, layers⟩
  · exact .inl (cut_layers layers)
  · by_cases ends : Construct.string ∈ c :: outer
    · rw [cut_keeps ends]
      exact .inl (cut_layers layers)
    · have noString := ends
      rw [List.mem_cons, not_or] at noString
      refine .inr ⟨by rw [cut_without_string ends], .inr ⟨c, outer, rfl, ?_, ?_⟩⟩
      · exact kind.imp_left fun literal => literal_without_string literal (Ne.symm noString.1)
      · exact layers_without_string layers noString.2

theorem layers_reverse {stack : List Construct} (layers : Layers IsTextBlock stack) :
    ∃ n : Nat, stack.reverse = (List.replicate n [.textBlock, .interpolation]).flatten := by
  induction layers with
  | nil => exact ⟨0, rfl⟩
  | @cons c outer kind _ ih =>
    obtain ⟨n, pairs⟩ := ih
    obtain rfl : c = .textBlock := kind
    refine ⟨n + 1, ?_⟩
    simp [pairs, List.replicate_succ']

theorem nested_reverse {stack : List Construct} (nested : Nested IsTextBlock stack) :
    ∃ n : Nat, ∃ top ∈ [[], [Construct.textBlock], [Construct.comment]],
      stack.reverse = (List.replicate n [.textBlock, .interpolation]).flatten ++ top := by
  rcases nested with layers | ⟨c, outer, rfl, kind, layers⟩
  · obtain ⟨n, pairs⟩ := layers_reverse layers
    exact ⟨n, [], by simp, by simpa using pairs⟩
  · obtain ⟨n, pairs⟩ := layers_reverse layers
    refine ⟨n, [c], ?_, by simp [pairs]⟩
    rcases kind with rfl | rfl <;> simp

theorem end_line_nested {m : Masker} (sound : m.Sound) : Nested IsTextBlock m.endLine.stack := by
  rcases cut_nested sound.nested with layers | ⟨whole, nested⟩
  · exact .inl layers
  · simpa only [endLine, whole] using nested

theorem end_line_deep {m : Masker} (sound : m.Sound)
    (head : m.endLine.stack.head? = some .comment) : 1 ≤ m.endLine.commentDepth := by
  rcases cut_nested sound.nested with layers | ⟨whole, _⟩
  · exact absurd head (layers_head layers)
  · exact sound.deep (by simpa only [endLine, whole] using head)

theorem end_line_positive {m : Masker} (sound : m.Sound) : ∀ n ∈ m.endLine.parens, 1 ≤ n :=
  fun n member => sound.positive n (List.mem_of_mem_drop member)

theorem end_line_rests {m : Masker} (sound : m.Sound) : m.endLine.Resting where
  shape := nested_reverse (end_line_nested sound)
  counted := end_line_counted sound.counted
  positive := end_line_positive sound
  deep := end_line_deep sound

theorem layers_mono {kind kind' : Construct → Prop} (wider : ∀ c, kind c → kind' c)
    {stack : List Construct} (layers : Layers kind stack) : Layers kind' stack := by
  induction layers with
  | nil => exact .nil
  | cons inside _ ih => exact .cons (wider _ inside) ih

theorem nested_mono {kind kind' : Construct → Prop} (wider : ∀ c, kind c → kind' c)
    {stack : List Construct} (nested : Nested kind stack) : Nested kind' stack := by
  rcases nested with layers | ⟨c, outer, same, inside, layers⟩
  · exact .inl (layers_mono wider layers)
  · exact .inr ⟨c, outer, same, inside.imp_left (wider c), layers_mono wider layers⟩

theorem end_line_sound {m : Masker} (sound : m.Sound) : m.endLine.Sound where
  nested := nested_mono (fun c textBlock => by rw [textBlock]; rfl) (end_line_nested sound)
  counted := end_line_counted sound.counted
  positive := end_line_positive sound
  deep := end_line_deep sound

theorem start_sound : start.Sound where
  nested := .inl .nil
  counted := start_counted
  positive := by simp [start]
  deep := by simp [start]

theorem trace_rests {m : Masker} (sound : m.Sound) (raws : List (List Char)) :
    ∃ steps, m.trace raws = .ok steps ∧ steps.length = raws.length ∧
      ∀ step ∈ steps, step.2.Resting := by
  induction raws generalizing m with
  | nil => exact ⟨[], rfl, rfl, by simp⟩
  | cons raw rest ih =>
    obtain ⟨shown, last, run, _⟩ := run_total sound.counted raw
    have runs := runs_of_run run
    have atEnd := runs_sound runs sound
    obtain ⟨more, trace, length, rests⟩ := ih (end_line_sound atEnd)
    refine ⟨(shown, last.endLine) :: more, trace_cons (mask_of_runs runs) trace, ?_, ?_⟩
    · rw [List.length_cons, List.length_cons, length]
    · intro step member
      rcases List.mem_cons.mp member with rfl | member
      · exact end_line_rests atEnd
      · exact rests step member

/-- From the start no line makes the masker ask for what it does not have, and after every line it
    rests. -/
theorem every_line_rests (raws : List (List Char)) :
    ∃ steps, start.trace raws = .ok steps ∧ steps.length = raws.length ∧
      ∀ step ∈ steps, step.2.Resting :=
  trace_rests start_sound raws

/-- The maskers that masking lines from the start of a source, one after the other, comes to. -/
inductive Reached : Masker → Prop where
  | fresh : Reached start
  | mask {m next : Masker} {raw code : List Char} (before : Reached m)
      (masked : m.mask raw = .ok (code, next)) : Reached next

theorem reached_sound {m : Masker} (reached : m.Reached) : m.Sound := by
  induction reached with
  | fresh => exact start_sound
  | mask _ masked ih =>
    obtain ⟨last, runs, rfl⟩ := mask_eq_ok masked
    exact end_line_sound (runs_sound runs ih)

end LineLint.Masker
