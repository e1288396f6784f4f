import LineLint.Config.Limits

/- What keeps a value from being written into a message. Its parts are written in order, and the first
   that meets an obstacle decides: one for which there is no room, or an integer that is too long. -/
namespace LineLint.Limits

variable {limits : Limits} {key : String}

def Lacks (limits : Limits) (key : String) (part : Nat × Value) : Prop :=
  part.1 ≠ 0 ∧ limits.writes key part.1 part.2 = false

inductive Hinders (limits : Limits) (key : String) (part : Nat × Value) : Obstacle → Prop
  | tooDeep (lacks : limits.Lacks key part) : Hinders limits key part .tooDeep
  | longInteger {n : Int} (room : ¬ limits.Lacks key part) (integer : part.2 = .integer n)
      (long : Value.isLong n = true) : Hinders limits key part .longInteger

def Stops (limits : Limits) (key : String) (value : Value) (obstacle : Obstacle) : Prop :=
  ∃ before part after, value.parts 0 = before ++ part :: after ∧
    (∀ earlier ∈ before, ∀ other, ¬ limits.Hinders key earlier other) ∧
    limits.Hinders key part obstacle

theorem obstacle_eq_some {part : Nat × Value} {obstacle : Obstacle} :
    limits.obstacle? key part.1 part.2 = some obstacle ↔ limits.Hinders key part obstacle := by
  obtain ⟨depth, part⟩ := part
  unfold obstacle?
  by_cases lacks : depth ≠ 0 ∧ limits.writes key depth part = false
  · rw [if_pos lacks, Option.some.injEq]
    constructor
    · rintro rfl
      exact .tooDeep lacks
    · intro hinders
      cases hinders with
      | tooDeep _ => rfl
      | longInteger room _ _ => exact absurd lacks room
  · rw [if_neg lacks]
    constructor
    · intro found
      cases part with
      | integer n =>
        obtain ⟨long, same⟩ := Option.ite_none_right_eq_some.mp found
        cases same
        exact .longInteger lacks rfl long
      | _ => cases found
    · intro hinders
      cases hinders with
      | tooDeep also => exact absurd also lacks
      | longInteger _ integer long =>
        cases integer
        exact if_pos long

theorem obstacle_eq_none {part : Nat × Value} :
    limits.obstacle? key part.1 part.2 = none ↔ ∀ other, ¬ limits.Hinders key part other := by
  simp only [Option.eq_none_iff_forall_ne_some, ne_eq, obstacle_eq_some]

theorem unwritten_eq_some {value : Value} {obstacle : Obstacle} :
    limits.unwritten? key value = some obstacle ↔ limits.Stops key value obstacle := by
  simp only [unwritten?, List.findSome?_eq_some_iff, obstacle_eq_none, obstacle_eq_some, Stops]
  grind

example :
    let limits : Limits := ⟨fun _ _ => true, fun _ depth _ => depth < 3⟩
    let long : Value := .integer (Decimal.powerOfTen Value.mostDigits)
    let deep : Value := .list [.list [.list []]]
    limits.unwritten? "profile" (.list [long, deep]) = some .longInteger ∧
      limits.unwritten? "profile" (.list [deep, long]) = some .tooDeep := by
  decide +kernel

theorem unwritten_eq_none {value : Value} :
    limits.unwritten? key value = none ↔
      ∀ part ∈ value.parts 0, ∀ other, ¬ limits.Hinders key part other := by
  simp only [unwritten?, List.findSome?_eq_none_iff, obstacle_eq_none]

theorem Stops.unique {value : Value} {obstacle other : Obstacle}
    (stops : limits.Stops key value obstacle) (stops' : limits.Stops key value other) :
    obstacle = other :=
  Option.some.inj ((unwritten_eq_some.mpr stops).symm.trans (unwritten_eq_some.mpr stops'))

end LineLint.Limits
