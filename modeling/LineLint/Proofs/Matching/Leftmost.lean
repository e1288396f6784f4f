import LineLint.Matcher.Basic
import LineLint.Text.Search

/- Searching for the leftmost occurrence. A place of a text is a way to cut it in two; a recogniser
   looks at what follows the cut, and at the last character in front of it. -/
namespace LineLint
open LineLint.Text

namespace Text
variable {α : Type} {accepts : Option Char → List Char → Option α}

theorem last_or_cons (c : Char) (front : List Char) (before : Option Char) :
    (c :: front).getLast?.or before = front.getLast?.or (some c) := by
  cases front with
  | nil => rfl
  | cons d front => simp [List.getLast?_cons]

theorem every_place_iff {c : Char} {cs : List Char} {holds : List Char → List Char → Prop} :
    (∀ front rest, front ++ rest = c :: cs → holds front rest) ↔
      holds [] (c :: cs) ∧ ∀ front rest, front ++ rest = cs → holds (c :: front) rest := by
  constructor
  · intro every
    refine ⟨every [] (c :: cs) rfl, fun front rest whole => ?_⟩
    exact every (c :: front) rest (congrArg (c :: ·) whole)
  · rintro ⟨here, later⟩ front rest whole
    rcases List.append_eq_cons_iff.mp whole with ⟨rfl, rfl⟩ | ⟨front, rfl, rfl⟩
    · exact here
    · exact later front rest rfl

theorem leftmost_eq_none_iff {before : Option Char} {cs : List Char} :
    leftmost accepts before cs = none ↔
      ∀ front rest, front ++ rest = cs → accepts (front.getLast?.or before) rest = none := by
  induction cs generalizing before with
  | nil =>
    constructor
    · intro missed front rest whole
      obtain ⟨rfl, rfl⟩ := List.append_eq_nil_iff.mp whole
      exact Option.map_eq_none_iff.mp missed
    · intro refused
      exact Option.map_eq_none_iff.mpr (refused [] [] rfl)
  | cons c cs ih =>
    rw [every_place_iff]
    simp only [last_or_cons]
    rw [← ih]
    cases here : accepts before (c :: cs) with
    | some a => simp [leftmost, here]
    | none => simp [leftmost, here]

theorem leftmost_eq_some_iff {before : Option Char} {cs : List Char} {n : Nat} {a : α} :
    leftmost accepts before cs = some (n, a) ↔
      ∃ front rest, front ++ rest = cs ∧ front.length = n ∧
        accepts (front.getLast?.or before) rest = some a ∧
        ∀ front' rest', front' ++ rest' = cs → front'.length < n →
          accepts (front'.getLast?.or before) rest' = none := by
  induction cs generalizing before n with
  | nil =>
    constructor
    · intro found
      obtain ⟨a', accepted, eq⟩ := Option.map_eq_some_iff.mp found
      cases eq
      exact ⟨[], [], rfl, rfl, accepted, fun _ _ _ less => absurd less (Nat.not_lt_zero _)⟩
    · rintro ⟨front, rest, whole, rfl, accepted, _⟩
      obtain ⟨rfl, rfl⟩ := List.append_eq_nil_iff.mp whole
      exact Option.map_eq_some_iff.mpr ⟨a, accepted, rfl⟩
  | cons c cs ih =>
    unfold leftmost
    simp only [every_place_iff, last_or_cons, List.length_cons]
    -- Once the text is accepted where it begins, no place further on counts.
    split
    · rename_i a' here
      constructor
      · intro found
        cases found
        refine ⟨[], c :: cs, rfl, rfl, here, fun less => absurd less (Nat.not_lt_zero _), ?_⟩
        exact fun _ _ _ less => absurd less (Nat.not_lt_zero _)
      · rintro ⟨front, rest, whole, rfl, accepted, first, _⟩
        rcases List.append_eq_cons_iff.mp whole with ⟨rfl, rfl⟩ | ⟨front, rfl, rfl⟩
        · cases here.symm.trans accepted
          rfl
        · have refused : accepts before (c :: (front ++ rest)) = none := first (Nat.zero_lt_succ _)
          cases refused.symm.trans here
    · rename_i here
      constructor
      · intro found
        obtain ⟨⟨k, a'⟩, later, eq⟩ := Option.map_eq_some_iff.mp found
        cases eq
        obtain ⟨front, rest, rfl, rfl, accepted, first⟩ := ih.mp later
        refine ⟨c :: front, rest, rfl, rfl, (last_or_cons c front before).symm ▸ accepted,
          fun _ => here, fun front' rest' whole less => ?_⟩
        exact first front' rest' whole (Nat.lt_of_succ_lt_succ less)
      · rintro ⟨front, rest, whole, rfl, accepted, _, first⟩
        rcases List.append_eq_cons_iff.mp whole with ⟨rfl, rfl⟩ | ⟨front, rfl, rfl⟩
        · cases here.symm.trans accepted
        · rw [last_or_cons] at accepted
          refine Option.map_eq_some_iff.mpr ⟨(front.length, a), ?_, rfl⟩
          refine ih.mpr ⟨front, rest, rfl, rfl, accepted, fun front' rest' whole less => ?_⟩
          exact first front' rest' whole (Nat.succ_lt_succ less)

end Text

/-- A matcher reports the leftmost of what it looks for: it hits a line exactly if there is an
    occurrence, and the hit is the report of one that no other starts before. -/
def Matcher.ReportsLeftmost (m : Matcher) (line : Line) {Occurrence : Type}
    (start : Occurrence → Nat) (report : Occurrence → Hit) : Prop :=
  ∃ outcome, m line = .ok outcome ∧ (outcome.isSome = true ↔ Nonempty Occurrence) ∧
    ∀ hit, outcome = some hit ↔
      ∃ occurrence, (∀ other, start occurrence ≤ start other) ∧ hit = report occurrence

theorem reports_congr {m : Matcher} {line : Line} {Occurrence : Type} {start : Occurrence → Nat}
    {report report' : Occurrence → Hit} (reports : m.ReportsLeftmost line start report)
    (same : ∀ o, report o = report' o) : m.ReportsLeftmost line start report' := by
  rwa [← funext same]

/-- The occurrences in a text are what a recogniser accepts in it, each with what stands in front of
    it, the text from there on, and what the recogniser makes of it. -/
structure Recognises {α Occurrence : Type} (accepts : Option Char → List Char → Option α)
    (cs : List Char) (front rest : Occurrence → List Char) (value : Occurrence → α) : Prop where
  whole : ∀ o, front o ++ rest o = cs
  accepted : ∀ o, accepts (front o).getLast? (rest o) = some (value o)
  listed : ∀ before after a, before ++ after = cs → accepts before.getLast? after = some a →
    ∃ o, front o = before

section
variable {α Occurrence : Type} {accepts : Option Char → List Char → Option α} {cs : List Char}
  {front rest : Occurrence → List Char} {value : Occurrence → α}

theorem recognised_value (recognises : Recognises accepts cs front rest value)
    {before after : List Char} {a : α} (whole : before ++ after = cs)
    (accepted : accepts before.getLast? after = some a) : ∃ o, front o = before ∧ value o = a := by
  obtain ⟨o, rfl⟩ := recognises.listed before after a whole accepted
  have same : rest o = after := List.append_cancel_left ((recognises.whole o).trans whole.symm)
  refine ⟨o, rfl, ?_⟩
  rw [← same, recognises.accepted o] at accepted
  exact Option.some.inj accepted

theorem leftmost_recognised_iff (recognises : Recognises accepts cs front rest value) {n : Nat}
    {a : α} :
    leftmost accepts none cs = some (n, a) ↔
      ∃ o, (∀ other, (front o).length ≤ (front other).length) ∧ (front o).length = n ∧
        value o = a := by
  rw [leftmost_eq_some_iff]
  simp only [Option.or_none]
  constructor
  · rintro ⟨before, after, whole, rfl, accepted, first⟩
    obtain ⟨o, rfl, valued⟩ := recognised_value recognises whole accepted
    refine ⟨o, fun other => ?_, rfl, valued⟩
    refine Nat.le_of_not_lt fun further => ?_
    have refused := first (front other) (rest other) (recognises.whole other) further
    rw [recognises.accepted other] at refused
    cases refused
  · rintro ⟨o, least, rfl, rfl⟩
    refine ⟨front o, rest o, recognises.whole o, rfl, recognises.accepted o, ?_⟩
    intro before after whole less
    rw [Option.eq_none_iff_forall_ne_some]
    intro a accepted
    obtain ⟨other, rfl⟩ := recognises.listed before after a whole accepted
    have := least other
    omega

theorem leftmost_recognised_some (recognises : Recognises accepts cs front rest value) :
    (leftmost accepts none cs).isSome = true ↔ Nonempty Occurrence := by
  constructor
  · intro found
    obtain ⟨⟨n, a⟩, eq⟩ := Option.isSome_iff_exists.mp found
    obtain ⟨o, _⟩ := (leftmost_recognised_iff recognises).mp eq
    exact ⟨o⟩
  · rintro ⟨o⟩
    rw [Option.isSome_iff_ne_none]
    intro missed
    have refused := leftmost_eq_none_iff.mp missed (front o) (rest o) (recognises.whole o)
    rw [Option.or_none, recognises.accepted o] at refused
    cases refused

theorem pattern_reports_leftmost {p : Pattern} {toFound : Nat × α → Found}
    (search : ∀ cs, p.find cs = (leftmost accepts none cs).map toFound) {line : Line}
    (recognises : Recognises accepts (p.subject.of line) front rest value) :
    p.matcher.ReportsLeftmost line (fun o => (front o).length)
      fun o => (toFound ((front o).length, value o)).hit := by
  refine ⟨_, rfl, ?_, fun hit => ?_⟩
  · rw [Option.isSome_map, search, Option.isSome_map]
    exact leftmost_recognised_some recognises
  · rw [search, Option.map_map, Option.map_eq_some_iff]
    constructor
    · rintro ⟨⟨n, a⟩, found, rfl⟩
      obtain ⟨o, least, rfl, rfl⟩ := (leftmost_recognised_iff recognises).mp found
      exact ⟨o, least, rfl⟩
    · rintro ⟨o, least, rfl⟩
      exact ⟨_, (leftmost_recognised_iff recognises).mpr ⟨o, least, rfl, rfl⟩, rfl⟩

end

end LineLint
