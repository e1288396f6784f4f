import LineLint.Line

/- Where a text is cut into lines. -/
namespace LineLint

theorem ordinary_of_single {line : List Char} (noFeed : '\n' ∉ line) (noReturn : '\r' ∉ line) :
    ∀ c ∈ line, isTerminator c = false := by
  intro c member
  have feed : c ≠ '\n' := fun eq => noFeed (eq ▸ member)
  have return_ : c ≠ '\r' := fun eq => noReturn (eq ▸ member)
  simp [isTerminator, feed, return_]

theorem split_lines_cons {c : Char} (ordinary : isTerminator c = false) (rest : List Char) :
    splitLines (c :: rest) = consToFirst c (splitLines rest) := by
  have noReturn : c ≠ '\r' := by rintro rfl; simp [isTerminator] at ordinary
  simp [splitLines, noReturn, ordinary]

theorem split_lines_first {line tail : List Char} {rest : List (List Char)}
    (ordinary : ∀ c ∈ line, isTerminator c = false) (after : splitLines tail = [] :: rest) :
    splitLines (line ++ tail) = line :: rest := by
  induction line with
  | nil => exact after
  | cons c line ih =>
    have later := ih fun d member => ordinary d (List.mem_cons_of_mem c member)
    rw [List.cons_append, split_lines_cons (ordinary c List.mem_cons_self), later]
    rfl

theorem split_lines_append {line : List Char} (ordinary : ∀ c ∈ line, isTerminator c = false)
    (rest : List Char) : splitLines (line ++ '\n' :: rest) = line :: splitLines rest :=
  split_lines_first ordinary (by simp [splitLines, isTerminator])

theorem split_lines_single {line : List Char} (ordinary : ∀ c ∈ line, isTerminator c = false)
    (nonempty : line ≠ []) : splitLines line = [line] := by
  induction line with
  | nil => exact absurd rfl nonempty
  | cons c line ih =>
    rw [split_lines_cons (ordinary c List.mem_cons_self)]
    cases line with
    | nil => rfl
    | cons d line =>
      rw [ih (fun e member => ordinary e (List.mem_cons_of_mem c member)) (List.cons_ne_nil d line)]
      rfl

theorem split_lines_terminator {c : Char} (ends : isTerminator c = true) {rest : List Char}
    (whole : ¬ (c = '\r' ∧ rest.head? = some '\n')) :
    splitLines (c :: rest) = [] :: splitLines rest := by
  rw [splitLines, if_pos ends]
  rintro more rfl rfl
  exact whole ⟨rfl, rfl⟩

end LineLint
