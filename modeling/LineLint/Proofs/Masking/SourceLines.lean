import LineLint.Proofs.Masking.Columns

/- The lines of a source: numbered from 1 in order, each raw line beside its masked form. -/
namespace LineLint

theorem numbered_text {raws codes : List (List Char)} (number : Nat)
    (same : raws.length = codes.length) : (numbered number raws codes).map Line.text = raws := by
  induction raws generalizing codes number with
  | nil => cases codes <;> rfl
  | cons raw raws ih =>
    cases codes with
    | nil => simp at same
    | cons code codes => rw [numbered, List.map_cons, ih _ (Nat.succ.inj same)]

theorem numbered_code {raws codes : List (List Char)} (number : Nat)
    (same : raws.length = codes.length) : (numbered number raws codes).map Line.code = codes := by
  induction raws generalizing codes number with
  | nil => cases codes with
    | nil => rfl
    | cons code codes => simp at same
  | cons raw raws ih =>
    cases codes with
    | nil => simp at same
    | cons code codes => rw [numbered, List.map_cons, ih _ (Nat.succ.inj same)]

theorem numbered_get {raws codes : List (List Char)} {number : Nat} {line : Line}
    (member : line ∈ numbered number raws codes) :
    ∃ i, line.number = number + i ∧ raws[i]? = some line.text ∧ codes[i]? = some line.code := by
  induction raws generalizing codes number with
  | nil => simp [numbered] at member
  | cons raw raws ih =>
    cases codes with
    | nil => simp [numbered] at member
    | cons code codes =>
      rcases List.mem_cons.mp member with rfl | member
      · exact ⟨0, rfl, rfl, rfl⟩
      · obtain ⟨i, place, text, masked⟩ := ih member
        exact ⟨i + 1, by omega, text, masked⟩

theorem source_lines_traced (text : List Char) :
    ∃ steps, Masker.start.trace (splitLines text) = .ok steps ∧
      sourceLines text = numbered 1 (splitLines text) (steps.map Prod.fst) := by
  obtain ⟨steps, trace⟩ := Masker.trace_total Masker.start_counted (splitLines text)
  exact ⟨steps, trace, by rw [sourceLines, Masker.codes_eq trace]⟩

theorem source_lines_text (text : List Char) :
    (sourceLines text).map Line.text = splitLines text := by
  obtain ⟨steps, trace, eq⟩ := source_lines_traced text
  rw [eq, numbered_text 1 (Masker.trace_veils trace).length_eq]

theorem source_lines_code {text : List Char} {steps : List (List Char × Masker)}
    (trace : Masker.start.trace (splitLines text) = .ok steps) :
    (sourceLines text).map Line.code = steps.map Prod.fst := by
  rw [sourceLines, Masker.codes_eq trace, numbered_code 1 (Masker.trace_veils trace).length_eq]

def Line.Masked (line : Line) : Prop := ∃ first last, Masker.Runs first line.text line.code last

theorem source_line {text : List Char} {line : Line} (member : line ∈ sourceLines text) :
    1 ≤ line.number ∧ (splitLines text)[line.number - 1]? = some line.text ∧ line.Masked := by
  obtain ⟨steps, trace, eq⟩ := source_lines_traced text
  rw [eq] at member
  obtain ⟨i, place, raw, code⟩ := numbered_get member
  have index : line.number - 1 = i := by omega
  refine ⟨by omega, index ▸ raw, ?_⟩
  obtain ⟨inRaws, rawEq⟩ := List.getElem?_eq_some_iff.mp raw
  obtain ⟨inCodes, codeEq⟩ := List.getElem?_eq_some_iff.mp code
  have runs := (List.forall₂_iff_get.mp (Masker.trace_runs trace)).2 i inRaws inCodes
  rw [List.get_eq_getElem, List.get_eq_getElem, rawEq, codeEq] at runs
  exact runs

end LineLint
