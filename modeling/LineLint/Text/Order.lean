/- Texts ordered by code point, and sets of texts listed in that order. -/
namespace LineLint.Text

def precedes : List Char → List Char → Bool
  | _, [] => false
  | [], _ :: _ => true
  | a :: as, b :: bs =>
      if a.toNat < b.toNat then true
      else if b.toNat < a.toNat then false
      else precedes as bs

def insertName (name : String) : List String → List String
  | [] => [name]
  | other :: rest =>
      if precedes other.toList name.toList then other :: insertName name rest
      else if other = name then other :: rest
      else name :: other :: rest

def sortedNames (names : List String) : List String := names.foldr insertName []

theorem mem_insertName (name other : String) (names : List String) :
    other ∈ insertName name names ↔ other = name ∨ other ∈ names := by
  induction names with
  | nil => simp [insertName]
  | cons first rest ih =>
    simp only [insertName]
    split
    · simp only [List.mem_cons, ih]
      constructor <;> rintro (h | h | h) <;> simp [h]
    · split
      · rename_i same
        simp [same]
      · simp

theorem mem_sortedNames (name : String) (names : List String) :
    name ∈ sortedNames names ↔ name ∈ names := by
  induction names with
  | nil => simp [sortedNames]
  | cons first rest ih =>
    have step : sortedNames (first :: rest) = insertName first (sortedNames rest) := rfl
    rw [step, mem_insertName, ih, List.mem_cons]

end LineLint.Text
