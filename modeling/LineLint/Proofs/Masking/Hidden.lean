import LineLint.Matcher.Symbol
import LineLint.Proofs.Masking.SourceLines

/- What is masked away cannot be told from the masked lines. Two runs over lines that differ only in
   hidden characters take the same steps. -/
namespace LineLint.Masker

def Neutral (c : Char) : Prop := c ∉ ['\\', '"', '/', '*', '(', ')']

instance : DecidablePred Neutral := fun c => inferInstanceAs (Decidable (c ∉ _))

/-- A raw line, its masked form, and a line that differs from the raw one only where a character
    that is no space is masked, and only in neutral characters. -/
inductive Reworded : List Char → List Char → List Char → Prop where
  | nil : Reworded [] [] []
  | same {raw code raw' : List Char} (c shown : Char) (rest : Reworded raw code raw') :
      Reworded (c :: raw) (shown :: code) (c :: raw')
  | hidden {raw code raw' : List Char} {c c' : Char} (visible : c ≠ ' ') (neutral : Neutral c)
      (neutral' : Neutral c') (rest : Reworded raw code raw') :
      Reworded (c :: raw) (' ' :: code) (c' :: raw')

theorem reworded_length {raw code raw' : List Char} (reworded : Reworded raw code raw') :
    code.length = raw.length ∧ raw'.length = raw.length := by
  induction reworded with
  | nil => exact ⟨rfl, rfl⟩
  | same c shown _ ih => simp [ih]
  | hidden _ _ _ _ ih => simp [ih]

theorem reworded_delimiter {c shown : Char} {raw code raw' : List Char} (part : ¬ Neutral c)
    (reworded : Reworded (c :: raw) (shown :: code) raw') :
    ∃ rest, raw' = c :: rest ∧ Reworded raw code rest := by
  cases reworded with
  | same _ _ rest => exact ⟨_, rfl, rest⟩
  | hidden _ neutral _ _ => exact absurd neutral part

theorem reworded_shown {c : Char} {raw code raw' : List Char}
    (reworded : Reworded (c :: raw) (c :: code) raw') :
    ∃ rest, raw' = c :: rest ∧ Reworded raw code rest := by
  cases reworded with
  | same _ _ rest => exact ⟨_, rfl, rest⟩
  | hidden visible _ _ _ => exact absurd rfl visible

theorem reworded_begins {delimiter raw code raw' : List Char} (parts : ∀ c ∈ delimiter, ¬ Neutral c)
    (reworded : Reworded raw code raw') (begins : delimiter <+: raw') : delimiter <+: raw := by
  induction delimiter generalizing raw code raw' with
  | nil => exact List.nil_prefix
  | cons d delimiter ih =>
    have first := parts d List.mem_cons_self
    have later := fun c member => parts c (List.mem_cons_of_mem d member)
    cases reworded with
    | nil => simp at begins
    | same c shown rest =>
      rw [List.cons_prefix_cons] at begins ⊢
      exact ⟨begins.1, ih later rest begins.2⟩
    | hidden _ _ neutral' _ =>
      rw [List.cons_prefix_cons] at begins
      exact absurd neutral' (begins.1 ▸ first)

theorem reworded_head {d : Char} {raw code raw' : List Char} (part : ¬ Neutral d)
    (reworded : Reworded raw code raw') (head : raw'.head? = some d) : raw.head? = some d := by
  obtain ⟨rest, rfl⟩ := List.head?_eq_some_iff.mp head
  have begins : [d] <+: raw := by
    refine reworded_begins ?_ reworded (List.prefix_append [d] rest)
    simpa using part
  obtain ⟨more, rfl⟩ := begins
  rfl

theorem reworded_pair {c d shown shown' : Char} {raw code raw' : List Char}
    (parts : ¬ Neutral c ∧ ¬ Neutral d)
    (reworded : Reworded (c :: d :: raw) (shown :: shown' :: code) raw') :
    ∃ rest, raw' = c :: d :: rest ∧ Reworded raw code rest := by
  obtain ⟨after, rfl, second⟩ := reworded_delimiter parts.1 reworded
  obtain ⟨rest, rfl, third⟩ := reworded_delimiter parts.2 second
  exact ⟨rest, rfl, third⟩

theorem reworded_quotes {raw code raw' : List Char} {a b c : Char}
    (reworded : Reworded ('"' :: '"' :: '"' :: raw) (a :: b :: c :: code) raw') :
    ∃ rest, raw' = '"' :: '"' :: '"' :: rest ∧ Reworded raw code rest := by
  obtain ⟨after, rfl, second⟩ := reworded_delimiter (by decide) reworded
  obtain ⟨rest, rfl, last⟩ := reworded_pair (by decide) second
  exact ⟨rest, rfl, last⟩

theorem opens_comment_reworded {c : Char} {raw code raw' : List Char}
    (reworded : Reworded raw code raw') (opens : OpensComment c raw') : OpensComment c raw :=
  opens.imp_right <|
    Or.imp (reworded_head (by decide) reworded) (reworded_head (by decide) reworded)

theorem comment_text_reworded {c : Char} {raw code raw' : List Char}
    (ordinary : ¬ BoundsComment c raw) (reworded : Reworded (c :: raw) (' ' :: code) raw') :
    ∃ c' rest, raw' = c' :: rest ∧ ¬ BoundsComment c' rest ∧ Reworded raw code rest := by
  cases reworded with
  | @same _ _ rest _ _ reworded =>
    refine ⟨c, rest, rfl, fun bounds => ordinary ?_, reworded⟩
    exact bounds.imp (And.imp_right (reworded_head (by decide) reworded))
      (And.imp_right (reworded_head (by decide) reworded))
  | @hidden _ _ rest _ c' _ _ neutral' reworded =>
    refine ⟨c', rest, rfl, ?_, reworded⟩
    rintro (⟨rfl, _⟩ | ⟨rfl, _⟩) <;> exact absurd neutral' (by decide)

theorem closes_literal_reworded {literal : Construct} {raw code raw' : List Char}
    (reworded : Reworded raw code raw') (closes : ClosesLiteral literal raw') :
    ClosesLiteral literal raw :=
  closes.imp (And.imp_right (reworded_begins (by simp [Neutral]) reworded))
    (And.imp_right (reworded_begins (by simp [Neutral]) reworded))

theorem reworded_cons {c shown : Char} {raw code raw' : List Char}
    (reworded : Reworded (c :: raw) (shown :: code) raw') :
    ∃ c' rest, raw' = c' :: rest ∧ (c' = c ∨ Neutral c') ∧ Reworded raw code rest := by
  cases reworded with
  | @same _ _ rest _ _ reworded => exact ⟨c, rest, rfl, .inl rfl, reworded⟩
  | @hidden _ _ rest _ c' _ _ neutral' reworded => exact ⟨c', rest, rfl, .inr neutral', reworded⟩

theorem blanks_eq_of_length {cs cs' : List Char} (same : cs.length = cs'.length) :
    blanks cs = blanks cs' := by
  simp [blanks, List.map_const', same]

theorem takes_reworded {m : Masker} {raw code raw' : List Char} {s : MaskStep}
    (takes : m.Takes raw s) (reworded : Reworded raw (s.shown ++ code) raw') :
    ∃ rest, m.Takes raw' ⟨s.shown, rest, s.after⟩ ∧ Reworded s.rest code rest := by
  cases takes with
  | @lineComment rest inCode =>
    obtain ⟨rest', rfl, after⟩ := reworded_pair (by decide) reworded
    have lengths := reworded_length after
    have empty : code = [] := by
      have length : (blanks rest ++ code).length = rest.length := lengths.1
      rw [List.length_append, blanks, List.length_map] at length
      exact List.length_eq_zero_iff.mp (by omega)
    rw [empty, blanks_eq_of_length lengths.2.symm]
    exact ⟨[], .lineComment inCode, .nil⟩
  | openComment inCode =>
    obtain ⟨rest, rfl, after⟩ := reworded_pair (by decide) reworded
    exact ⟨rest, .openComment inCode, after⟩
  | openTextBlock inCode =>
    obtain ⟨rest, rfl, after⟩ := reworded_quotes reworded
    exact ⟨rest, .openTextBlock inCode, after⟩
  | openString inCode single =>
    obtain ⟨rest, rfl, after⟩ := reworded_delimiter (by decide) reworded
    refine ⟨rest, .openString inCode fun triple => single ?_, after⟩
    exact reworded_begins (by simp [Neutral]) after triple
  | countParen inside counted isParen more =>
    obtain ⟨rest, rfl, after⟩ := reworded_shown reworded
    exact ⟨rest, .countParen inside counted isParen more, after⟩
  | @closeInterpolation c rest outer n counts inside counted isParen last =>
    have part : ¬ Neutral c := by rcases isParen with rfl | rfl <;> decide
    obtain ⟨rest', rfl, after⟩ := reworded_delimiter part reworded
    exact ⟨rest', .closeInterpolation inside counted isParen last, after⟩
  | plain inCode unquoted noComment uncounted =>
    obtain ⟨rest, rfl, after⟩ := reworded_shown reworded
    refine ⟨rest, .plain inCode unquoted (fun opens => noComment ?_) uncounted, after⟩
    exact opens_comment_reworded after opens
  | nestComment inside =>
    obtain ⟨rest, rfl, after⟩ := reworded_pair (by decide) reworded
    exact ⟨rest, .nestComment inside, after⟩
  | closeNested inside deep =>
    obtain ⟨rest, rfl, after⟩ := reworded_pair (by decide) reworded
    exact ⟨rest, .closeNested inside deep, after⟩
  | closeComment inside last =>
    obtain ⟨rest, rfl, after⟩ := reworded_pair (by decide) reworded
    exact ⟨rest, .closeComment inside last, after⟩
  | commentText inside ordinary =>
    obtain ⟨c', rest, rfl, ordinary', after⟩ := comment_text_reworded ordinary reworded
    exact ⟨rest, .commentText inside ordinary', after⟩
  | openInterpolation inside isLiteral =>
    obtain ⟨rest, rfl, after⟩ := reworded_pair (by decide) reworded
    exact ⟨rest, .openInterpolation inside isLiteral, after⟩
  | escape inside isLiteral escaped =>
    obtain ⟨rest, rfl, after⟩ := reworded_delimiter (by decide) reworded
    obtain ⟨c', rest, rfl, same, last⟩ := reworded_cons after
    refine ⟨rest, .escape inside isLiteral ?_, last⟩
    rcases same with rfl | neutral'
    · exact escaped
    · rintro rfl; exact absurd neutral' (by decide)
  | loneBackslash inside isLiteral =>
    obtain ⟨rest, rfl, after⟩ := reworded_delimiter (by decide) reworded
    cases after
    exact ⟨[], .loneBackslash inside isLiteral, .nil⟩
  | closeString inside =>
    obtain ⟨rest, rfl, after⟩ := reworded_delimiter (by decide) reworded
    exact ⟨rest, .closeString inside, after⟩
  | closeTextBlock inside =>
    obtain ⟨rest, rfl, after⟩ := reworded_quotes reworded
    exact ⟨rest, .closeTextBlock inside, after⟩
  | @literalText c rest literal outer inside isLiteral unescaped ordinary =>
    have closes : ClosesLiteral literal raw' → ClosesLiteral literal (c :: rest) :=
      closes_literal_reworded reworded
    obtain ⟨c', rest', rfl, same, after⟩ := reworded_cons reworded
    refine ⟨rest', .literalText inside isLiteral ?_ fun closing => ordinary (closes closing), after⟩
    rcases same with rfl | neutral'
    · exact unescaped
    · rintro rfl; exact absurd neutral' (by decide)

theorem runs_reworded {m last : Masker} {raw shown raw' : List Char} (runs : Runs m raw shown last)
    (reworded : Reworded raw shown raw') : Runs m raw' shown last := by
  induction runs generalizing raw' with
  | done => cases reworded; exact .done _
  | @step m last raw shown s takes _ ih =>
    obtain ⟨rest, takes', after⟩ := takes_reworded takes reworded
    exact Runs.step (s := ⟨s.shown, rest, s.after⟩) takes' (ih after)

/-- Lines beside their masked forms, and lines that are the same but for hidden characters. -/
def RewordedLines (lines : List (List Char × List Char)) (raws' : List (List Char)) : Prop :=
  List.Forall₂ (fun line raw' => Reworded line.1 line.2 raw') lines raws'

theorem trace_reworded {m : Masker} {raws raws' : List (List Char)}
    {steps : List (List Char × Masker)} (trace : m.trace raws = .ok steps)
    (reworded : RewordedLines (raws.zip (steps.map Prod.fst)) raws') :
    m.trace raws' = .ok steps := by
  induction raws generalizing m steps raws' with
  | nil =>
    cases trace
    cases reworded
    rfl
  | cons raw rest ih =>
    obtain ⟨code, next, more, mask, after, rfl⟩ := trace_cons_ok trace
    obtain ⟨last, runs, rfl⟩ := mask_eq_ok mask
    cases reworded with
    | cons first others =>
      exact trace_cons (mask_of_runs (runs_reworded runs first)) (ih after others)

theorem reworded_lines_length {raws codes raws' : List (List Char)}
    (same : raws.length = codes.length) (reworded : RewordedLines (raws.zip codes) raws') :
    raws'.length = codes.length := by
  rw [← List.Forall₂.length_eq reworded, List.length_zip, same, Nat.min_self]

theorem code_pattern_matcher {p : Pattern} (subject : p.subject = .code) :
    p.matcher = (fun code => .ok ((p.find code).map Found.hit)) ∘ Line.code := by
  funext line
  simp [Pattern.matcher, Subject.of, subject]

theorem code_pattern_hits {p : Pattern} {raws codes : List (List Char)}
    (subject : p.subject = .code) (number : Nat) (same : raws.length = codes.length) :
    (numbered number raws codes).map p.matcher =
      codes.map fun code => .ok ((p.find code).map Found.hit) := by
  rw [code_pattern_matcher subject, ← List.map_map, numbered_code number same]

/-- In other words, but with the same delimiters and the same code, lines are masked to the same
    lines, leave the masker in the same state after each of them, and give every pattern that is
    searched for in masked lines the same hits. -/
theorem hidden_text_unread (raws : List (List Char)) :
    ∃ steps, start.trace raws = .ok steps ∧
      ∀ raws', RewordedLines (raws.zip (steps.map Prod.fst)) raws' →
        start.trace raws' = .ok steps ∧
        ∀ p : Pattern, p.subject = .code → ∀ number : Nat,
          (numbered number raws' (steps.map Prod.fst)).map p.matcher =
            (numbered number raws (steps.map Prod.fst)).map p.matcher := by
  obtain ⟨steps, trace⟩ := trace_total start_counted raws
  refine ⟨steps, trace, fun raws' reworded => ⟨trace_reworded trace reworded, ?_⟩⟩
  intro p subject number
  have same := (trace_veils trace).length_eq
  rw [code_pattern_hits subject number same,
    code_pattern_hits subject number (reworded_lines_length same reworded)]

theorem hidden_text_unread_in_string :
    start.trace [['"', 'a', '"', ';']] = .ok [(['"', ' ', '"', ';'], start)] ∧
    RewordedLines [(['"', 'a', '"', ';'], ['"', ' ', '"', ';'])] [['"', ';', '"', ';']] ∧
    start.trace [['"', ';', '"', ';']] = .ok [(['"', ' ', '"', ';'], start)] ∧
    (numbered 1 [['"', ';', '"', ';']] [['"', ' ', '"', ';']]).map
        (Pattern.character .code ';').matcher =
      (numbered 1 [['"', 'a', '"', ';']] [['"', ' ', '"', ';']]).map
        (Pattern.character .code ';').matcher := by
  have traced : start.trace [['"', 'a', '"', ';']] = .ok [(['"', ' ', '"', ';'], start)] := by
    decide +kernel
  have reworded : RewordedLines [(['"', 'a', '"', ';'], ['"', ' ', '"', ';'])]
      [['"', ';', '"', ';']] :=
    .cons (.same _ _ (.hidden (by decide) (by decide) (by decide)
      (.same _ _ (.same _ _ .nil)))) .nil
  obtain ⟨steps, trace, unread⟩ := hidden_text_unread [['"', 'a', '"', ';']]
  cases trace.symm.trans traced
  obtain ⟨trace', hits⟩ := unread _ reworded
  exact ⟨traced, reworded, trace', hits (.character .code ';') rfl 1⟩

end LineLint.Masker
