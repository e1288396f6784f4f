import LineLint.Text.Search

/- What the recognisers take and leave: what is left of a text is one of its endings, and what was
   taken stands in front of it. -/
namespace LineLint.Text

theorem drop_length_take_while (holds : Char → Bool) (cs : List Char) :
    cs.drop (cs.takeWhile holds).length = cs.dropWhile holds := by
  have parts : (cs.takeWhile holds ++ cs.dropWhile holds).drop (cs.takeWhile holds).length =
      cs.dropWhile holds := List.drop_left' rfl
  rwa [List.takeWhile_append_dropWhile] at parts

theorem leftmost_eq_some {α : Type} {accepts : Option Char → List Char → Option α}
    {before : Option Char} {cs : List Char} {n : Nat} {a : α}
    (found : leftmost accepts before cs = some (n, a)) :
    ∃ previous, accepts previous (cs.drop n) = some a := by
  induction cs generalizing before n with
  | nil =>
    obtain ⟨a', accepted, eq⟩ := Option.map_eq_some_iff.mp found
    cases eq
    exact ⟨before, accepted⟩
  | cons c cs ih =>
    unfold leftmost at found
    split at found
    · rename_i accepted
      cases found
      exact ⟨before, accepted⟩
    · obtain ⟨⟨m, a'⟩, later, eq⟩ := Option.map_eq_some_iff.mp found
      cases eq
      exact ih later

theorem drop_word_eq_some {word cs rest : List Char} :
    dropWord word cs = some rest ↔ cs = word ++ rest := by
  induction word generalizing cs with
  | nil => simp [dropWord, eq_comm]
  | cons w ws ih =>
    cases cs with
    | nil => simp [dropWord]
    | cons c cs =>
      by_cases same : w = c
      · simp [dropWord, same, ih]
      · simp [dropWord, same, Ne.symm same]

theorem drop_word_at_eq_some {word cs rest : List Char} {before : Option Char} :
    dropWordAt word before cs = some rest ↔ before.any isWord = false ∧ cs = word ++ rest := by
  unfold dropWordAt
  split
  · simp [*]
  · simp [*, drop_word_eq_some]

theorem take_some_eq_some {holds : Char → Bool} {cs taken rest : List Char} :
    takeSome holds cs = some (taken, rest) ↔
      taken = cs.takeWhile holds ∧ rest = cs.dropWhile holds ∧ taken ≠ [] := by
  by_cases none : cs.takeWhile holds = []
  · simp only [takeSome, span, none, List.isEmpty_nil, if_true, reduceCtorEq, false_iff]
    rintro ⟨rfl, -, some⟩
    exact some rfl
  · simp only [takeSome, span, List.isEmpty_iff, none, if_false, Option.some.injEq, Prod.mk.injEq]
    constructor
    · rintro ⟨rfl, rfl⟩
      exact ⟨rfl, rfl, none⟩
    · rintro ⟨rfl, rfl, -⟩
      exact ⟨rfl, rfl⟩

theorem take_some_suffix {holds : Char → Bool} {cs taken rest : List Char}
    (found : takeSome holds cs = some (taken, rest)) : rest <:+ cs := by
  obtain ⟨_, rfl, _⟩ := take_some_eq_some.mp found
  exact List.dropWhile_suffix holds

end LineLint.Text
