import LineLint.Masker

/- The rules of masking, one for each kind of step, and that a step is taken exactly as a rule says.
   What is shown of a step is derived from the rules. -/
namespace LineLint

def Construct.isLiteral : Construct → Bool
  | .string => true
  | .textBlock => true
  | _ => false

namespace Masker

def InCode (m : Masker) : Prop := m.stack = [] ∨ ∃ outer, m.stack = .interpolation :: outer

def OpensComment (c : Char) (rest : List Char) : Prop :=
  c = '/' ∧ (rest.head? = some '/' ∨ rest.head? = some '*')

def BoundsComment (c : Char) (rest : List Char) : Prop :=
  c = '/' ∧ rest.head? = some '*' ∨ c = '*' ∧ rest.head? = some '/'

def ClosesLiteral (literal : Construct) (cs : List Char) : Prop :=
  literal = .string ∧ ['"'] <+: cs ∨ literal = .textBlock ∧ ['"', '"', '"'] <+: cs

inductive Takes (m : Masker) : List Char → MaskStep → Prop where
  | lineComment {rest : List Char} (code : m.InCode) :
      Takes m ('/' :: '/' :: rest) ⟨'/' :: '/' :: blanks rest, [], m⟩
  | openComment {rest : List Char} (code : m.InCode) :
      Takes m ('/' :: '*' :: rest) ⟨['/', '*'], rest, ⟨.comment :: m.stack, m.parens, 1⟩⟩
  | openTextBlock {rest : List Char} (code : m.InCode) :
      Takes m ('"' :: '"' :: '"' :: rest) ⟨['"', '"', '"'], rest, m.push .textBlock⟩
  | openString {rest : List Char} (code : m.InCode) (single : ¬ ['"', '"'] <+: rest) :
      Takes m ('"' :: rest) ⟨['"'], rest, m.push .string⟩
  | countParen {c : Char} {rest : List Char} {outer : List Construct} {n : Int} {counts : List Int}
      (inside : m.stack = .interpolation :: outer) (counted : m.parens = n :: counts)
      (paren : c = '(' ∨ c = ')') (more : n + change c ≠ 0) :
      Takes m (c :: rest) ⟨[c], rest, { m with parens := (n + change c) :: counts }⟩
  | closeInterpolation {c : Char} {rest : List Char} {outer : List Construct} {n : Int}
      {counts : List Int}
      (inside : m.stack = .interpolation :: outer) (counted : m.parens = n :: counts)
      (paren : c = '(' ∨ c = ')') (last : n + change c = 0) :
      Takes m (c :: rest) ⟨[' '], rest, { m with stack := outer, parens := counts }⟩
  | plain {c : Char} {rest : List Char} (code : m.InCode) (unquoted : c ≠ '"')
      (noComment : ¬ OpensComment c rest) (uncounted : m.stack = [] ∨ c ≠ '(' ∧ c ≠ ')') :
      Takes m (c :: rest) ⟨[c], rest, m⟩
  | nestComment {rest : List Char} {outer : List Construct} (inside : m.stack = .comment :: outer) :
      Takes m ('/' :: '*' :: rest)
        ⟨[' ', ' '], rest, { m with commentDepth := m.commentDepth + 1 }⟩
  | closeNested {rest : List Char} {outer : List Construct} (inside : m.stack = .comment :: outer)
      (deep : m.commentDepth - 1 ≠ 0) :
      Takes m ('*' :: '/' :: rest)
        ⟨[' ', ' '], rest, { m with commentDepth := m.commentDepth - 1 }⟩
  | closeComment {rest : List Char} {outer : List Construct} (inside : m.stack = .comment :: outer)
      (last : m.commentDepth - 1 = 0) :
      Takes m ('*' :: '/' :: rest)
        ⟨['*', '/'], rest, { m with stack := outer, commentDepth := m.commentDepth - 1 }⟩
  | commentText {c : Char} {rest : List Char} {outer : List Construct}
      (inside : m.stack = .comment :: outer) (ordinary : ¬ BoundsComment c rest) :
      Takes m (c :: rest) ⟨[' '], rest, m⟩
  | openInterpolation {rest : List Char} {literal : Construct} {outer : List Construct}
      (inside : m.stack = literal :: outer) (isLiteral : literal.isLiteral) :
      Takes m ('\\' :: '(' :: rest) ⟨[' ', ' '], rest, m.openInterpolation⟩
  | escape {c : Char} {rest : List Char} {literal : Construct} {outer : List Construct}
      (inside : m.stack = literal :: outer) (isLiteral : literal.isLiteral) (escaped : c ≠ '(') :
      Takes m ('\\' :: c :: rest) ⟨[' ', ' '], rest, m⟩
  | loneBackslash {literal : Construct} {outer : List Construct}
      (inside : m.stack = literal :: outer) (isLiteral : literal.isLiteral) :
      Takes m ['\\'] ⟨[' '], [], m⟩
  | closeString {rest : List Char} {outer : List Construct} (inside : m.stack = .string :: outer) :
      Takes m ('"' :: rest) ⟨['"'], rest, { m with stack := outer }⟩
  | closeTextBlock {rest : List Char} {outer : List Construct}
      (inside : m.stack = .textBlock :: outer) :
      Takes m ('"' :: '"' :: '"' :: rest) ⟨['"', '"', '"'], rest, { m with stack := outer }⟩
  | literalText {c : Char} {rest : List Char} {literal : Construct} {outer : List Construct}
      (inside : m.stack = literal :: outer) (isLiteral : literal.isLiteral)
      (unescaped : c ≠ '\\') (ordinary : ¬ ClosesLiteral literal (c :: rest)) :
      Takes m (c :: rest) ⟨[' '], rest, m⟩

theorem paren_takes {m : Masker} {c : Char} {rest : List Char} {s : MaskStep} (code : m.InCode)
    (isParen : c = '(' ∨ c = ')') (step : m.paren c rest = .ok s) : m.Takes (c :: rest) s := by
  unfold paren at step
  split at step
  case h_1 outer inside =>
    unfold countParen count at step
    split at step
    · cases step
    · rename_i n counted found
      split at found
      · cases found
      · rename_i k counts counts_eq
        cases found
        simp only [dropCount, Except.bind, pop, inside] at step
        split at step
        · rename_i last
          cases step
          exact .closeInterpolation inside counts_eq isParen last
        · rename_i more
          cases step
          have taken : m.Takes (c :: rest) _ := .countParen inside counts_eq isParen more
          simpa only [inside] using taken
  case h_2 outside =>
    cases step
    have empty : m.stack = [] := code.resolve_right fun ⟨outer, inside⟩ => outside outer inside
    refine .plain code ?_ ?_ (.inl empty) <;>
      rcases isParen with rfl | rfl <;> simp [OpensComment]

theorem code_step_takes {m : Masker} {c : Char} {cs : List Char} {s : MaskStep} (code : m.InCode)
    (step : m.codeStep c cs = .ok s) : m.Takes (c :: cs) s := by
  unfold codeStep at step
  split at step
  · cases step; exact .lineComment code
  · cases step; exact .openComment code
  · cases step; exact .openTextBlock code
  · rename_i rest single
    cases step
    exact .openString code fun ⟨more, eq⟩ => single more eq.symm
  · exact paren_takes code (.inl rfl) step
  · exact paren_takes code (.inr rfl) step
  · rename_i quote opening closing slash star _
    cases step
    refine .plain code quote ?_ (.inr ⟨opening, closing⟩)
    rintro ⟨rfl, next | next⟩
    · obtain ⟨rest, rfl⟩ := List.head?_eq_some_iff.mp next
      exact slash rest rfl rfl
    · obtain ⟨rest, rfl⟩ := List.head?_eq_some_iff.mp next
      exact star rest rfl rfl

theorem comment_step_takes {m : Masker} {c : Char} {cs : List Char} {s : MaskStep}
    {outer : List Construct} (inside : m.stack = .comment :: outer)
    (step : m.commentStep c cs = .ok s) : m.Takes (c :: cs) s := by
  unfold commentStep at step
  split at step
  · cases step; exact .nestComment inside
  · simp only [closeComment, pop, inside, Except.map] at step
    split at step
    · rename_i last
      cases step
      exact .closeComment inside last
    · rename_i deep
      cases step
      simpa only [inside] using Takes.closeNested inside deep
  · rename_i nest close
    cases step
    refine .commentText inside ?_
    rintro (⟨rfl, next⟩ | ⟨rfl, next⟩)
    · obtain ⟨rest, rfl⟩ := List.head?_eq_some_iff.mp next
      exact nest rest rfl rfl
    · obtain ⟨rest, rfl⟩ := List.head?_eq_some_iff.mp next
      exact close rest rfl rfl

theorem closing_eq_some {literal : Construct} {c : Char} {cs quotes more : List Char}
    (closes : closing? literal c cs = some (quotes, more)) :
    c :: cs = quotes ++ more ∧
      (literal = .string ∧ quotes = ['"'] ∨ literal = .textBlock ∧ quotes = ['"', '"', '"']) := by
  unfold closing? at closes
  split at closes
  · split at closes <;> cases closes <;> simp
  · cases closes

theorem closing_eq_none {literal : Construct} {c : Char} {cs : List Char}
    (open_ : closing? literal c cs = none) : ¬ ClosesLiteral literal (c :: cs) := by
  rintro (⟨rfl, more, eq⟩ | ⟨rfl, more, eq⟩) <;> cases eq <;> simp [closing?] at open_

theorem literal_step_takes {m : Masker} {literal : Construct} {c : Char} {cs : List Char}
    {s : MaskStep} {outer : List Construct} (inside : m.stack = literal :: outer)
    (isLiteral : literal.isLiteral) (step : m.literalStep literal c cs = .ok s) :
    m.Takes (c :: cs) s := by
  unfold literalStep at step
  split at step
  · cases step; exact .openInterpolation inside isLiteral
  · rename_i escaped
    cases step
    exact .escape inside isLiteral fun eq => escaped eq
  · rename_i opens escapes
    split at step
    · rename_i quotes more closes
      simp only [pop, inside, Except.map] at step
      cases step
      obtain ⟨eq, ⟨rfl, rfl⟩ | ⟨rfl, rfl⟩⟩ := closing_eq_some closes
      · rw [eq]; exact .closeString inside
      · rw [eq]; exact .closeTextBlock inside
    · rename_i open_
      cases step
      by_cases backslash : c = '\\'
      · subst backslash
        cases cs with
        | nil => exact .loneBackslash inside isLiteral
        | cons d rest => exact (escapes d rest rfl rfl).elim
      · exact .literalText inside isLiteral backslash (closing_eq_none open_)

theorem takes_of_step {m : Masker} {c : Char} {cs : List Char} {s : MaskStep}
    (step : m.step c cs = .ok s) : m.Takes (c :: cs) s := by
  unfold Masker.step at step
  split at step
  · exact comment_step_takes ‹_› step
  · exact literal_step_takes ‹_› rfl step
  · exact literal_step_takes ‹_› rfl step
  · rename_i noComment noString noTextBlock
    refine code_step_takes ?_ step
    cases inside : m.stack with
    | nil => exact .inl inside
    | cons top outer =>
      cases top with
      | string => exact (noString outer inside).elim
      | textBlock => exact (noTextBlock outer inside).elim
      | comment => exact (noComment outer inside).elim
      | interpolation => exact .inr ⟨outer, inside⟩

theorem step_in_code {m : Masker} (code : m.InCode) (c : Char) (cs : List Char) :
    m.step c cs = m.codeStep c cs := by
  rcases code with inside | ⟨outer, inside⟩ <;> simp [Masker.step, inside]

theorem step_in_comment {m : Masker} {outer : List Construct}
    (inside : m.stack = .comment :: outer) (c : Char) (cs : List Char) :
    m.step c cs = m.commentStep c cs := by
  simp [Masker.step, inside]

theorem step_in_literal {m : Masker} {literal : Construct} {outer : List Construct}
    (inside : m.stack = literal :: outer) (isLiteral : literal.isLiteral) (c : Char)
    (cs : List Char) : m.step c cs = m.literalStep literal c cs := by
  cases literal <;> simp_all [Masker.step, Construct.isLiteral]

theorem code_step_plain {m : Masker} {c : Char} {rest : List Char} (unquoted : c ≠ '"')
    (noComment : ¬ OpensComment c rest) (uncounted : m.stack = [] ∨ c ≠ '(' ∧ c ≠ ')') :
    m.codeStep c rest = .ok ⟨[c], rest, m⟩ := by
  unfold codeStep
  split
  · simp [OpensComment] at noComment
  · simp [OpensComment] at noComment
  · exact absurd rfl unquoted
  · exact absurd rfl unquoted
  · simp_all [paren]
  · simp_all [paren]
  · rfl

theorem paren_counted {m : Masker} {c : Char} {rest : List Char} {outer : List Construct}
    (inside : m.stack = .interpolation :: outer) (isParen : c = '(' ∨ c = ')') :
    m.codeStep c rest = m.countParen c rest := by
  rcases isParen with rfl | rfl <;> simp [codeStep, paren, inside]

theorem comment_step_text {m : Masker} {c : Char} {rest : List Char}
    (ordinary : ¬ BoundsComment c rest) : m.commentStep c rest = .ok ⟨[' '], rest, m⟩ := by
  unfold commentStep
  split
  · simp [BoundsComment] at ordinary
  · simp [BoundsComment] at ordinary
  · rfl

theorem closing_of_ordinary {literal : Construct} {c : Char} {rest : List Char}
    (ordinary : ¬ ClosesLiteral literal (c :: rest)) : closing? literal c rest = none := by
  cases closes : closing? literal c rest with
  | none => rfl
  | some found =>
    obtain ⟨eq, ⟨rfl, quotes⟩ | ⟨rfl, quotes⟩⟩ := closing_eq_some closes
    · exact (ordinary (.inl ⟨rfl, found.2, by rw [eq, quotes]⟩)).elim
    · exact (ordinary (.inr ⟨rfl, found.2, by rw [eq, quotes]⟩)).elim

theorem step_of_takes {m : Masker} {c : Char} {cs : List Char} {s : MaskStep}
    (takes : m.Takes (c :: cs) s) : m.step c cs = .ok s := by
  cases takes with
  | lineComment code => rw [step_in_code code]; rfl
  | openComment code => rw [step_in_code code]; rfl
  | openTextBlock code => rw [step_in_code code]; rfl
  | openString code single =>
    rw [step_in_code code]
    unfold codeStep
    split <;> simp_all
  | countParen inside counted isParen more =>
    rw [step_in_code (.inr ⟨_, inside⟩), paren_counted inside isParen]
    simp [Masker.countParen, count, counted, more]
  | closeInterpolation inside counted isParen last =>
    rw [step_in_code (.inr ⟨_, inside⟩), paren_counted inside isParen]
    simp [Masker.countParen, count, counted, last, dropCount, pop, inside, Except.bind]
  | plain code unquoted noComment uncounted =>
    rw [step_in_code code, code_step_plain unquoted noComment uncounted]
  | nestComment inside => rw [step_in_comment inside]; rfl
  | closeNested inside deep =>
    rw [step_in_comment inside]
    simp [commentStep, Masker.closeComment, deep]
  | closeComment inside last =>
    rw [step_in_comment inside]
    simp [commentStep, Masker.closeComment, last, pop, inside, Except.map]
  | commentText inside ordinary =>
    rw [step_in_comment inside, comment_step_text ordinary]
  | openInterpolation inside isLiteral => rw [step_in_literal inside isLiteral]; rfl
  | escape inside isLiteral escaped =>
    rw [step_in_literal inside isLiteral]
    unfold literalStep
    split <;> simp_all
  | loneBackslash inside isLiteral =>
    rw [step_in_literal inside isLiteral]
    rfl
  | closeString inside =>
    rw [step_in_literal inside rfl]
    simp [literalStep, closing?, pop, inside, Except.map]
  | closeTextBlock inside =>
    rw [step_in_literal inside rfl]
    simp [literalStep, closing?, pop, inside, Except.map]
  | literalText inside isLiteral unescaped ordinary =>
    rw [step_in_literal inside isLiteral]
    simp [literalStep, unescaped, closing_of_ordinary ordinary]

end Masker

end LineLint
