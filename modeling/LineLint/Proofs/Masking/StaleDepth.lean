import LineLint.Proofs.Masking.Resting
import Mathlib.Data.List.Forall2

/- The depth of comments outside of comments. A string that ends with its line may leave a depth of a
   comment that is open no more; no masking reads it, as opening a comment sets the depth. In a comment
   every depth is told from every other one by some line. -/
namespace LineLint.Masker

/-- Maskers with the same constructs open and the same counts. Their depths may differ as long as no
    comment is open, since nothing reads a depth then. -/
structure Alike (m m' : Masker) : Prop where
  stack : m'.stack = m.stack
  parens : m'.parens = m.parens
  depth : Construct.comment ∈ m.stack → m'.commentDepth = m.commentDepth

theorem alike_refl (m : Masker) : m.Alike m := ⟨rfl, rfl, fun _ => rfl⟩

theorem alike_of_depth {m : Masker} (outside : Construct.comment ∉ m.stack) (depth : Int) :
    m.Alike { m with commentDepth := depth } :=
  ⟨rfl, rfl, fun inside => absurd inside outside⟩

theorem alike_cases {m m' : Masker} (alike : m.Alike m') :
    m' = m ∨ Construct.comment ∉ m.stack ∧ ∃ depth, m' = { m with commentDepth := depth } := by
  obtain ⟨stack', parens', depth'⟩ := m'
  obtain ⟨stack, parens, depth⟩ := alike
  subst stack parens
  by_cases inside : Construct.comment ∈ m.stack
  · obtain rfl : depth' = m.commentDepth := depth inside
    exact .inl rfl
  · exact .inr ⟨inside, depth', rfl⟩

theorem takes_alike {m m' : Masker} {raw : List Char} {s : MaskStep} (takes : m.Takes raw s)
    (alike : m.Alike m') :
    ∃ after, m'.Takes raw ⟨s.shown, s.rest, after⟩ ∧ s.after.Alike after := by
  rcases alike_cases alike with rfl | ⟨outside, depth, rfl⟩
  · exact ⟨s.after, takes, alike_refl _⟩
  have around {c : Construct} {outer : List Construct} (inside : m.stack = c :: outer) :
      Construct.comment ∉ outer := by
    rw [inside, List.mem_cons, not_or] at outside
    exact outside.2
  cases takes with
  | lineComment code => exact ⟨_, .lineComment code, alike⟩
  | openComment code => exact ⟨_, .openComment code, alike_refl _⟩
  | openTextBlock code =>
    exact ⟨_, .openTextBlock code, alike_of_depth (by simpa [push] using outside) depth⟩
  | openString code single =>
    exact ⟨_, .openString code single, alike_of_depth (by simpa [push] using outside) depth⟩
  | @countParen c rest outer n counts inside counted isParen more =>
    exact ⟨_, .countParen inside counted isParen more,
      alike_of_depth (m := { m with parens := (n + change c) :: counts }) outside depth⟩
  | closeInterpolation inside counted isParen last =>
    exact ⟨_, .closeInterpolation inside counted isParen last, alike_of_depth (around inside) depth⟩
  | plain code unquoted noComment uncounted =>
    exact ⟨_, .plain code unquoted noComment uncounted, alike⟩
  | nestComment inside => simp [inside] at outside
  | closeNested inside deep => simp [inside] at outside
  | closeComment inside last => simp [inside] at outside
  | commentText inside ordinary => simp [inside] at outside
  | openInterpolation inside isLiteral =>
    exact ⟨_, .openInterpolation inside isLiteral,
      alike_of_depth (by simpa [Masker.openInterpolation] using outside) depth⟩
  | escape inside isLiteral escaped => exact ⟨_, .escape inside isLiteral escaped, alike⟩
  | loneBackslash inside isLiteral => exact ⟨_, .loneBackslash inside isLiteral, alike⟩
  | closeString inside =>
    exact ⟨_, .closeString inside, alike_of_depth (around inside) depth⟩
  | closeTextBlock inside =>
    exact ⟨_, .closeTextBlock inside, alike_of_depth (around inside) depth⟩
  | literalText inside isLiteral unescaped ordinary =>
    exact ⟨_, .literalText inside isLiteral unescaped ordinary, alike⟩

theorem runs_alike {m m' last : Masker} {raw shown : List Char} (runs : Runs m raw shown last)
    (alike : m.Alike m') : ∃ last', Runs m' raw shown last' ∧ last.Alike last' := by
  induction runs generalizing m' with
  | done m => exact ⟨m', .done m', alike⟩
  | step takes _ ih =>
    obtain ⟨after, takes', afterAlike⟩ := takes_alike takes alike
    obtain ⟨last', runs', lastAlike⟩ := ih afterAlike
    exact ⟨last', Runs.step (s := ⟨_, _, after⟩) takes' runs', lastAlike⟩

theorem end_line_alike {m m' : Masker} (alike : m.Alike m') : m.endLine.Alike m'.endLine := by
  obtain ⟨stack, parens, depth⟩ := alike
  refine ⟨by simp only [endLine, stack], by simp only [endLine, stack, parens], fun kept => ?_⟩
  refine depth ?_
  rw [← cut_append m.stack]
  exact List.mem_append_right _ kept

theorem trace_alike {m m' : Masker} {raws : List (List Char)} {steps : List (List Char × Masker)}
    (trace : m.trace raws = .ok steps) (alike : m.Alike m') :
    ∃ steps', m'.trace raws = .ok steps' ∧ steps'.map Prod.fst = steps.map Prod.fst ∧
      List.Forall₂ Alike (steps.map Prod.snd) (steps'.map Prod.snd) := by
  induction raws generalizing m m' steps with
  | nil => cases trace; exact ⟨[], rfl, rfl, .nil⟩
  | cons raw rest ih =>
    obtain ⟨code, next, more, mask, after, rfl⟩ := trace_cons_ok trace
    obtain ⟨last, runs, rfl⟩ := mask_eq_ok mask
    obtain ⟨last', runs', lastAlike⟩ := runs_alike runs alike
    have nextAlike := end_line_alike lastAlike
    obtain ⟨more', after', codes, later⟩ := ih after nextAlike
    refine ⟨(code, last'.endLine) :: more', trace_cons (mask_of_runs runs') after', ?_,
      .cons nextAlike later⟩
    rw [List.map_cons, List.map_cons, codes]

def seen (steps : List (List Char × Masker)) : List (List Char × List Construct × List Int) :=
  steps.map fun step => (step.1, step.2.stack, step.2.parens)

/-- Two maskers come through the same lines, and the same is seen of both. -/
def LooksLike (m m' : Masker) (raws : List (List Char)) : Prop :=
  ∃ steps steps', m.trace raws = .ok steps ∧ m'.trace raws = .ok steps' ∧ seen steps' = seen steps

theorem seen_alike {steps steps' : List (List Char × Masker)}
    (codes : steps'.map Prod.fst = steps.map Prod.fst)
    (alike : List.Forall₂ Alike (steps.map Prod.snd) (steps'.map Prod.snd)) :
    seen steps' = seen steps := by
  induction steps generalizing steps' with
  | nil =>
    obtain rfl := List.map_eq_nil_iff.mp codes
    rfl
  | cons step steps ih =>
    obtain ⟨step', steps', rfl, code, codes⟩ := List.map_eq_cons_iff.mp codes
    rw [List.map_cons, List.map_cons, List.forall₂_cons] at alike
    obtain ⟨⟨stack, parens, _⟩, alike⟩ := alike
    have later := ih codes alike
    unfold seen at later ⊢
    rw [List.map_cons, List.map_cons, later, code, stack, parens]

theorem alike_looks_like {m m' : Masker} (counted : m.Counted) (alike : m.Alike m')
    (raws : List (List Char)) : m.LooksLike m' raws := by
  obtain ⟨steps, trace⟩ := trace_total counted raws
  obtain ⟨steps', trace', codes, after⟩ := trace_alike trace alike
  exact ⟨steps, steps', trace, trace', seen_alike codes after⟩

theorem looks_like_code {m m' next next' : Masker} {raw code code' : List Char}
    (looks : m.LooksLike m' [raw]) (mask : m.mask raw = .ok (code, next))
    (mask' : m'.mask raw = .ok (code', next')) : code' = code := by
  obtain ⟨steps, steps', trace, trace', same⟩ := looks
  cases trace.symm.trans (trace_cons mask rfl)
  cases trace'.symm.trans (trace_cons mask' rfl)
  exact congrArg Prod.fst (List.cons.inj same).1

section Comment

variable {m m' : Masker} {outer outer' : List Construct}

def closings : Nat → List Char
  | 0 => ['a']
  | n + 1 => '*' :: '/' :: closings n

theorem shown_last {shown more : List Char} {c : Char} (last : more.getLast? = some c) :
    (shown ++ more).getLast? = some c := by
  rw [List.getLast?_append, last, Option.some_or]

theorem closings_leave {n : Nat} (inside : m.stack = .comment :: outer)
    (layers : Layers IsTextBlock outer) (depth : m.commentDepth = n + 1) :
    ∃ shown last, Runs m (closings (n + 1)) shown last ∧ shown.getLast? = some 'a' := by
  induction n generalizing m with
  | zero =>
    have code : Masker.InCode ⟨outer, m.parens, m.commentDepth - 1⟩ := by
      cases layers with
      | nil => exact .inl rfl
      | cons => exact .inr ⟨_, rfl⟩
    have letter : Masker.Takes _ ['a'] _ :=
      .plain code (by decide) (by simp [OpensComment]) (.inr (by decide))
    have close : m.Takes ['*', '/', 'a'] _ := .closeComment inside (by omega)
    exact ⟨_, _, .step close (.step letter (.done _)), rfl⟩
  | succ n ih =>
    have close : m.Takes ('*' :: '/' :: closings (n + 1)) _ := .closeNested inside (by omega)
    obtain ⟨shown, last, runs, ends⟩ :=
      ih (m := { m with commentDepth := m.commentDepth - 1 }) inside (by dsimp only; omega)
    exact ⟨_, last, .step close runs, shown_last ends⟩

theorem closings_stay {n : Nat} (inside : m.stack = .comment :: outer) (deep : n < m.commentDepth) :
    ∃ shown last, Runs m (closings n) shown last ∧ shown.getLast? = some ' ' := by
  induction n generalizing m with
  | zero =>
    have letter : m.Takes ['a'] _ := .commentText inside (by simp [BoundsComment])
    exact ⟨_, _, .step letter (.done _), rfl⟩
  | succ n ih =>
    have close : m.Takes ('*' :: '/' :: closings n) _ := .closeNested inside (by omega)
    obtain ⟨shown, last, runs, ends⟩ :=
      ih (m := { m with commentDepth := m.commentDepth - 1 }) inside (by dsimp only; omega)
    exact ⟨_, last, .step close runs, shown_last ends⟩

theorem depths_seen (inside : m.stack = .comment :: outer) (inside' : m'.stack = .comment :: outer')
    (layers : Layers IsTextBlock outer) (positive : 1 ≤ m.commentDepth)
    (deeper : m.commentDepth < m'.commentDepth) :
    ∃ raw code code' next next', m.mask raw = .ok (code, next) ∧ m'.mask raw = .ok (code', next') ∧
      code ≠ code' := by
  obtain ⟨n, depth⟩ := Int.eq_ofNat_of_zero_le (by omega : 0 ≤ m.commentDepth - 1)
  obtain ⟨shown, last, runs, letter⟩ := closings_leave (n := n) inside layers (by omega)
  obtain ⟨shown', last', runs', space⟩ := closings_stay (n := n + 1) inside' (by push_cast; omega)
  refine ⟨_, _, _, _, _, mask_of_runs runs, mask_of_runs runs', ?_⟩
  rintro rfl
  rw [letter] at space
  cases space

theorem layers_of_reverse {n : Nat} {stack : List Construct}
    (pairs : stack.reverse = (List.replicate n [.textBlock, .interpolation]).flatten) :
    Layers IsTextBlock stack := by
  induction n generalizing stack with
  | zero =>
    obtain rfl := List.reverse_eq_nil_iff.mp pairs
    exact .nil
  | succ n ih =>
    rw [List.replicate_succ', List.flatten_append, List.reverse_eq_iff] at pairs
    rw [pairs, List.reverse_append]
    exact .cons rfl (ih (List.reverse_reverse _))

theorem resting_comment (resting : m.Resting) (inside : .comment ∈ m.stack) :
    ∃ outer, m.stack = .comment :: outer ∧ Layers IsTextBlock outer ∧ 1 ≤ m.commentDepth := by
  obtain ⟨n, top, known, shape⟩ := resting.shape
  have outside : Construct.comment ∉
      (List.replicate n [Construct.textBlock, .interpolation]).flatten := by
    simp [List.mem_flatten, List.mem_replicate]
  have last : Construct.comment ∈ top := by
    rw [← List.mem_reverse, shape, List.mem_append] at inside
    exact inside.resolve_left outside
  obtain rfl : top = [.comment] := by
    simp only [List.mem_cons, List.not_mem_nil, or_false] at known
    rcases known with rfl | rfl | rfl
    · cases last
    · cases last with | tail _ none => cases none
    · rfl
  rw [List.reverse_eq_iff, List.reverse_append] at shape
  exact ⟨_, shape, layers_of_reverse (List.reverse_reverse _), resting.deep (by rw [shape]; rfl)⟩

end Comment

/-- Whatever lines come, two depths make no difference as long as no comment is open, and only then. -/
theorem depth_unseen_iff {m m' : Masker} (resting : m.Resting) (resting' : m'.Resting)
    (stack : m'.stack = m.stack) (parens : m'.parens = m.parens) :
    (∀ raws, m.LooksLike m' raws) ↔
      (.comment ∈ m.stack → m'.commentDepth = m.commentDepth) := by
  constructor
  · intro looks inside
    obtain ⟨outer, head, layers, positive⟩ := resting_comment resting inside
    obtain ⟨outer', head', layers', positive'⟩ := resting_comment resting' (stack ▸ inside)
    by_contra different
    rcases Int.lt_or_gt_of_ne different with shallower | deeper
    · obtain ⟨raw, _, _, _, _, mask', mask, apart⟩ :=
        depths_seen head' head layers' positive' shallower
      exact apart (looks_like_code (looks [raw]) mask mask')
    · obtain ⟨raw, _, _, _, _, mask, mask', apart⟩ := depths_seen head head' layers positive deeper
      exact apart (looks_like_code (looks [raw]) mask mask').symm
  · intro depth raws
    exact alike_looks_like resting.counted ⟨stack, parens, depth⟩ raws

def inTextBlock (depth : Int) : Masker := ⟨[.interpolation, .textBlock], [1], depth⟩

theorem in_text_block_resting (depth : Int) : (inTextBlock depth).Resting where
  shape := ⟨1, [], by simp, rfl⟩
  counted := rfl
  positive := by simp [inTextBlock]
  deep := by simp [inTextBlock]

/-- The second line opens a string in the interpolation, and in that a comment in a comment. -/
theorem left_depth_unseen :
    start.mask "\"\"\"\\(".toList = .ok ("\"\"\"  ".toList, inTextBlock 0) ∧
      start.mask "\"\"\"\\(\"\\(/*/*".toList = .ok ("\"\"\"  \"  /*  ".toList, inTextBlock 2) ∧
      (inTextBlock 0).Resting ∧ (inTextBlock 2).Resting ∧
      Construct.comment ∉ (inTextBlock 0).stack ∧
      ∀ raws, (inTextBlock 0).LooksLike (inTextBlock 2) raws := by
  have outside : Construct.comment ∉ (inTextBlock 0).stack := by decide
  refine ⟨by decide +kernel, by decide +kernel, in_text_block_resting 0, in_text_block_resting 2,
    outside, ?_⟩
  refine (depth_unseen_iff (in_text_block_resting 0) (in_text_block_resting 2) rfl rfl).mpr ?_
  intro inside
  exact absurd inside outside

end LineLint.Masker
