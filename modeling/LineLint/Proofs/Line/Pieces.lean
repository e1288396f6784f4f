import LineLint.Proofs.Line.Split
import LineLint.Proofs.Text.Utf8

/- Code points as lines with their endings. They can be written so in one way, and the lines are those
   that their characters are split into. Surrogates are like any other code points here. -/
namespace LineLint

/-- A line and the code points that end it. -/
structure Piece where
  line : List Nat
  ending : List Nat
  deriving DecidableEq, Repr

def joined (pieces : List Piece) : List Nat := pieces.flatMap fun p => p.line ++ p.ending

def lineEndings : List (List Nat) := [[10], [13, 10], [13]]

/-- No line holds a terminator. Each has an ending, but for the last, which may do without if it is not
    empty. A carriage return alone is no ending before a line feed. -/
def WellCut : List Piece → Prop
  | [] => True
  | p :: rest =>
      (10 ∉ p.line ∧ 13 ∉ p.line) ∧
      (p.ending ∈ lineEndings ∨ p.ending = [] ∧ p.line ≠ [] ∧ rest = []) ∧
      (p.ending = [13] → (joined rest).head? ≠ some 10) ∧ WellCut rest

theorem joined_cons (p : Piece) (rest : List Piece) :
    joined (p :: rest) = p.line ++ (p.ending ++ joined rest) := by
  simp [joined]

theorem joined_ne_nil {pieces : List Piece} (cut : WellCut pieces) (some : pieces ≠ []) :
    joined pieces ≠ [] := by
  cases pieces with
  | nil => exact absurd rfl some
  | cons p rest =>
    obtain ⟨_, ended, _, _⟩ := cut
    intro none
    simp only [joined_cons, List.append_eq_nil_iff] at none
    rcases ended with ends | ⟨_, nonempty, _⟩
    · simp [none.2.1, lineEndings] at ends
    · exact nonempty none.1

theorem behind_line {p : Piece} {rest : List Piece} (cut : WellCut (p :: rest)) :
    ∀ n ∈ (p.ending ++ joined rest).head?, n = 10 ∨ n = 13 := by
  obtain ⟨_, ended, _, _⟩ := cut
  rcases ended with ends | ⟨open_, _, rfl⟩
  · simp only [lineEndings, List.mem_cons, List.not_mem_nil, or_false] at ends
    rcases ends with eq | eq | eq <;> simp [eq]
  · simp [open_, joined]

theorem line_unique {line line' rest rest' : List Nat} (single : 10 ∉ line ∧ 13 ∉ line)
    (single' : 10 ∉ line' ∧ 13 ∉ line') (behind : ∀ n ∈ rest.head?, n = 10 ∨ n = 13)
    (behind' : ∀ n ∈ rest'.head?, n = 10 ∨ n = 13) (same : line ++ rest = line' ++ rest') :
    line = line' ∧ rest = rest' := by
  rcases List.append_eq_append_iff.mp same with ⟨more, rfl, eq⟩ | ⟨more, rfl, eq⟩
  · cases more with
    | nil => exact ⟨(List.append_nil line).symm, eq⟩
    | cons n more =>
      rcases behind n (by rw [eq]; rfl) with rfl | rfl <;> simp at single'
  · cases more with
    | nil => exact ⟨List.append_nil line', eq.symm⟩
    | cons n more =>
      rcases behind' n (by rw [eq]; rfl) with rfl | rfl <;> simp at single

theorem ending_unique {ending ending' rest rest' : List Nat} (ends : ending ∈ lineEndings)
    (ends' : ending' ∈ lineEndings) (whole : ending = [13] → rest.head? ≠ some 10)
    (whole' : ending' = [13] → rest'.head? ≠ some 10) (same : ending ++ rest = ending' ++ rest') :
    ending = ending' ∧ rest = rest' := by
  simp only [lineEndings, List.mem_cons, List.not_mem_nil, or_false] at ends ends'
  rcases ends with rfl | rfl | rfl <;> rcases ends' with rfl | rfl | rfl <;> grind

theorem pieces_unique {pieces pieces' : List Piece} (cut : WellCut pieces) (cut' : WellCut pieces')
    (same : joined pieces = joined pieces') : pieces = pieces' := by
  induction pieces generalizing pieces' with
  | nil =>
    by_contra other
    exact joined_ne_nil cut' (Ne.symm other) same.symm
  | cons p rest ih =>
    cases pieces' with
    | nil => exact absurd same (joined_ne_nil cut (List.cons_ne_nil p rest))
    | cons q rest' =>
      have behind := behind_line cut
      have behind' := behind_line cut'
      obtain ⟨single, ended, whole, later⟩ := cut
      obtain ⟨single', ended', whole', later'⟩ := cut'
      rw [joined_cons, joined_cons] at same
      obtain ⟨lines, same⟩ := line_unique single single' behind behind' same
      have endings : p.ending = q.ending ∧ joined rest = joined rest' := by
        rcases ended with ends | ⟨none, _, rfl⟩
        · rcases ended' with ends' | ⟨none', _, rfl⟩
          · exact ending_unique ends ends' whole whole' same
          · simp [none', joined] at same
            simp [same.1, lineEndings] at ends
        · rw [none, joined, List.flatMap_nil, List.append_nil] at same
          obtain ⟨alone, more⟩ := List.append_eq_nil_iff.mp same.symm
          exact ⟨none.trans alone.symm, more.symm⟩
      obtain ⟨p_line, p_ending⟩ := p
      obtain ⟨q_line, q_ending⟩ := q
      cases lines
      cases endings.1
      rw [ih later later' endings.2]

end LineLint
