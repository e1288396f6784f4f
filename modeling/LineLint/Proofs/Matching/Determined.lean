import LineLint.Proofs.Matching.Expression
import LineLint.Proofs.Matching.Places
import LineLint.Proofs.Text.Runs

/- Expressions that need not be tried in more than one way. As many characters are taken as possible;
   with fewer of them there is no going on, since the text would go on with another one. -/
namespace LineLint
open LineLint.Text

def Cursor.to (s : Cursor) (rest : List Char) : Cursor :=
  ⟨(s.rest.take (s.rest.length - rest.length)).reverse ++ s.front, rest, s.captures⟩

theorem to_append {s : Cursor} {taken rest : List Char} (cut : s.rest = taken ++ rest) :
    s.to rest = ⟨taken.reverse ++ s.front, rest, s.captures⟩ := by
  rw [Cursor.to, cut, List.length_append, Nat.add_sub_cancel, List.take_left]

theorem to_rest (s : Cursor) : s.to s.rest = s := by
  have cut : s.rest = [] ++ s.rest := rfl
  rw [to_append cut]
  rfl

theorem to_tail (front : List Char) (c : Char) (rest : List Char) (captures : List Capture) :
    Cursor.to ⟨front, c :: rest, captures⟩ rest = ⟨c :: front, rest, captures⟩ := by
  have cut : (Cursor.mk front (c :: rest) captures).rest = [c] ++ rest := rfl
  rw [to_append cut]
  rfl

theorem to_to {s : Cursor} {rest further : List Char} (suffix : rest <:+ s.rest)
    (later : further <:+ rest) : (s.to rest).to further = s.to further := by
  obtain ⟨taken, cut⟩ := suffix
  obtain ⟨more, rfl⟩ := later
  have whole : s.rest = (taken ++ more) ++ further := by rw [← cut, List.append_assoc]
  rw [to_append cut.symm, to_append (s := ⟨_, _, _⟩) rfl, to_append whole, List.reverse_append,
    List.append_assoc]

theorem to_front_length {s : Cursor} {rest : List Char} (suffix : rest <:+ s.rest) :
    (s.to rest).front.length = s.front.length + Pattern.offset s.rest rest := by
  obtain ⟨taken, cut⟩ := suffix
  rw [to_append cut.symm, Pattern.offset, ← cut, List.length_append, List.length_append,
    List.length_reverse]
  omega

def Cursor.dropping (drop : List Char → Option (List Char)) (s : Cursor) : Option Cursor :=
  (drop s.rest).map s.to

section
variable {drop : List Char → Option (List Char)} {s : Cursor} {rest : List Char}

theorem dropping_some (dropped : drop s.rest = some rest) : s.dropping drop = some (s.to rest) := by
  rw [Cursor.dropping, dropped, Option.map_some]

theorem dropping_none (kept : drop s.rest = none) : s.dropping drop = none := by
  rw [Cursor.dropping, kept, Option.map_none]

end

namespace Expression

def Settles (onward : Onward) (bars : List Char → Prop) : Prop :=
  (∀ t : Cursor, bars t.rest → onward t = none) ∨ ∀ t, (onward t).isSome = true

def Steps (e : Expression) (step : Cursor → Option Cursor) (bars : List Char → Prop) : Prop :=
  ∀ onward s, Settles onward bars → e.run onward s = (step s).bind onward

def Free : List Char → Prop := fun _ => False

section
variable {e first second : Expression} {step step' : Cursor → Option Cursor}
  {bars bars' : List Char → Prop}

theorem finish_settles (bars : List Char → Prop) : Settles finish bars := .inr fun _ => rfl

theorem run_steps (steps : e.Steps step bars) (s : Cursor) :
    e.run finish s = (step s).map Cursor.captures := by
  rw [steps finish s (finish_settles bars)]
  exact (Option.map_eq_bind).symm

theorem seq_steps (steps : first.Steps step bars) (steps' : second.Steps step' bars')
    (apart : ∀ t : Cursor, bars t.rest → step' t = none) :
    (seq first second).Steps (fun s => (step s).bind step') bars' := by
  intro onward s settles
  have later : second.run onward = fun t => (step' t).bind onward :=
    funext fun t => steps' onward t settles
  have inner : Settles (second.run onward) bars := by
    refine .inl fun t barred => ?_
    rw [later]
    simp only [apart t barred, Option.bind_none]
  rw [run, steps _ _ inner, later, Option.bind_assoc]

theorem place_steps (holds : List Char → List Char → Bool) :
    (place holds).Steps (fun s => if holds s.front s.rest then some s else none) Free := by
  intro onward s _
  simp only [run]
  cases holds s.front s.rest with
  | false => rfl
  | true => rfl

theorem group_steps (name : String) (steps : e.Steps step bars) :
    (group name e).Steps (fun s => (step s).map (Cursor.capture name s)) bars := by
  intro onward s settles
  have inner : Settles (fun t => onward (Cursor.capture name s t)) bars := by
    rcases settles with fails | never
    · exact .inl fun t barred => fails (Cursor.capture name s t) barred
    · exact .inr fun t => never (Cursor.capture name s t)
  rw [run, steps _ _ inner, Option.bind_map]
  rfl

end

structure Drops (e : Expression) (drop : List Char → Option (List Char))
    (bars : List Char → Prop) : Prop where
  steps : e.Steps (Cursor.dropping drop) bars
  suffix : ∀ {cs rest}, drop cs = some rest → rest <:+ cs

section
variable {e first second : Expression} {drop drop' : List Char → Option (List Char)}
  {bars bars' : List Char → Prop}

def dropOne (holds : Char → Bool) : List Char → Option (List Char)
  | [] => none
  | c :: rest => if holds c then some rest else none

theorem drop_one_iff {holds : Char → Bool} {cs rest : List Char} :
    dropOne holds cs = some rest ↔ ∃ c, holds c = true ∧ cs = c :: rest := by
  cases cs with
  | nil => simp [dropOne]
  | cons c cs =>
    simp only [dropOne, Option.ite_none_right_eq_some, Option.some.injEq, List.cons.injEq]
    constructor
    · rintro ⟨held, rfl⟩
      exact ⟨c, held, rfl, rfl⟩
    · rintro ⟨_, held, rfl, rfl⟩
      exact ⟨held, rfl⟩

theorem one_drops (holds : Char → Bool) : (one holds).Drops (dropOne holds) Free where
  steps onward s _ := by
    obtain ⟨front, rest, captures⟩ := s
    cases rest with
    | nil => rfl
    | cons c rest =>
      simp only [run, Cursor.dropping, dropOne]
      split
      · rw [Option.map_some, Option.bind_some, to_tail]
      · rfl
  suffix dropped := by
    obtain ⟨c, _, rfl⟩ := drop_one_iff.mp dropped
    exact List.suffix_cons c _

theorem seq_drops (drops : first.Drops drop bars) (drops' : second.Drops drop' bars')
    (apart : ∀ rest, bars rest → drop' rest = none) :
    (seq first second).Drops (fun cs => (drop cs).bind drop') bars' where
  steps := by
    have steps := seq_steps drops.steps drops'.steps fun t barred => dropping_none (apart _ barred)
    have same : (fun s => (Cursor.dropping drop s).bind (Cursor.dropping drop')) =
        Cursor.dropping fun cs => (drop cs).bind drop' := by
      funext s
      cases dropped : drop s.rest with
      | none => simp [Cursor.dropping, dropped]
      | some rest =>
        cases more : drop' rest with
        | none => simp [Cursor.dropping, Cursor.to, dropped, more]
        | some further =>
          have whole : ((drop s.rest).bind drop') = some further := by rw [dropped]; exact more
          rw [dropping_some dropped, Option.bind_some, dropping_some (s := s.to rest) more,
            to_to (drops.suffix dropped) (drops'.suffix more), dropping_some whole]
    rwa [same] at steps
  suffix {cs rest} dropped := by
    obtain ⟨further, early, late⟩ := Option.bind_eq_some_iff.mp dropped
    exact (drops'.suffix late).trans (drops.suffix early)

theorem either_drops (drops : first.Drops drop bars) (drops' : second.Drops drop' bars)
    (exclusive : ∀ cs rest, drop cs = some rest → drop' cs = none) :
    (either first second).Drops (fun cs => (drop cs).or (drop' cs)) bars where
  steps onward s settles := by
    rw [run, drops.steps onward s settles, drops'.steps onward s settles]
    simp only [Cursor.dropping]
    cases dropped : drop s.rest with
    | none => rfl
    | some rest =>
      simp only [exclusive _ _ dropped, Option.map_none, Option.bind_none, Option.or_none]
  suffix dropped := by
    rcases Option.or_eq_some_iff.mp dropped with early | ⟨_, late⟩
    · exact drops.suffix early
    · exact drops'.suffix late

theorem drops_mono (drops : e.Drops drop bars) (more : ∀ rest, bars rest → bars' rest) :
    e.Drops drop bars' where
  steps onward s settles :=
    drops.steps onward s (settles.imp_left fun fails t barred => fails t (more _ barred))
  suffix := drops.suffix

theorem drops_congr (drops : e.Drops drop bars) (same : ∀ cs, drop cs = drop' cs) :
    e.Drops drop' bars := by
  rwa [← funext same]

def empty : Expression := place fun _ _ => true

def optional (e : Expression) : Expression := either e empty

theorem optional_steps {step : Cursor → Option Cursor} (steps : e.Steps step bars)
    (wider : ∀ rest, bars rest → bars' rest)
    (barred : ∀ s : Cursor, (step s).isSome = true → bars' s.rest) :
    (optional e).Steps (fun s => (step s).or (some s)) bars' := by
  intro onward s settles
  have inner : Settles onward bars := settles.imp_left fun fails t blocked => fails t (wider _ blocked)
  have out : empty.run onward s = onward s := rfl
  rw [optional, run, steps onward s inner, out]
  dsimp only
  cases stepped : step s with
  | none => rfl
  | some t =>
    have taken : (step s).isSome = true := by
      rw [stepped]
      rfl
    rw [Option.some_or, Option.bind_some]
    rcases settles with fails | never
    · rw [fails s (barred s taken), Option.or_none]
    · rw [Option.or_of_isSome (never t)]

theorem optional_drops (drops : e.Drops drop bars) :
    (optional e).Drops (fun cs => (drop cs).or (some cs))
      (fun rest => bars rest ∨ (drop rest).isSome = true) where
  steps onward s settles := by
    have steps : (optional e).Steps _ fun rest => bars rest ∨ (drop rest).isSome = true :=
      optional_steps drops.steps (fun _ => .inl) fun s taken => by
        rw [Cursor.dropping, Option.isSome_map] at taken
        exact .inr taken
    rw [steps onward s settles]
    cases dropped : drop s.rest with
    | none => simp [Cursor.dropping, dropped, to_rest]
    | some rest => simp [Cursor.dropping, dropped]
  suffix {cs rest} dropped := by
    rcases Option.or_eq_some_iff.mp dropped with early | ⟨_, here⟩
    · exact drops.suffix early
    · cases here
      exact List.suffix_rfl

end

section
variable {e : Expression} {drop : List Char → Option (List Char)} {bars : List Char → Prop}

def Shortens (drop : List Char → Option (List Char)) : Prop :=
  ∀ {cs rest}, drop cs = some rest → rest.length < cs.length

theorem repeated_last {cs : List Char} (last : drop cs = none) (fuel : Nat) :
    Pattern.repeated drop fuel cs = cs := by
  cases fuel with
  | zero => rfl
  | succ fuel => rw [Pattern.repeated, last]

theorem nothing_dropped (shortens : Shortens drop) : drop [] = none := by
  rw [Option.eq_none_iff_forall_ne_some]
  intro rest dropped
  exact absurd (shortens dropped) (Nat.not_lt_zero _)

theorem repeated_fuel (shortens : Shortens drop) {fuel more : Nat} {cs : List Char}
    (enough : cs.length ≤ fuel) (enough' : cs.length ≤ more) :
    Pattern.repeated drop fuel cs = Pattern.repeated drop more cs := by
  induction fuel generalizing more cs with
  | zero =>
    obtain rfl := List.length_eq_zero_iff.mp (Nat.le_zero.mp enough)
    rw [repeated_last (nothing_dropped shortens), repeated_last (nothing_dropped shortens)]
  | succ fuel ih =>
    cases dropped : drop cs with
    | none => rw [repeated_last dropped, repeated_last dropped]
    | some rest =>
      have := shortens dropped
      obtain ⟨more, rfl⟩ : ∃ less, more = less + 1 := ⟨more - 1, by omega⟩
      rw [Pattern.repeated, Pattern.repeated, dropped]
      exact ih (by omega) (by omega)

theorem drop_all_next (shortens : Shortens drop) {cs rest : List Char}
    (dropped : drop cs = some rest) : Pattern.dropAll drop cs = Pattern.dropAll drop rest := by
  have shorter := shortens dropped
  obtain ⟨fuel, eq⟩ : ∃ fuel, cs.length = fuel + 1 := ⟨cs.length - 1, by omega⟩
  rw [Pattern.dropAll, Pattern.dropAll, eq, Pattern.repeated, dropped]
  exact repeated_fuel shortens (by omega) (Nat.le_refl _)

theorem drop_all_last {cs : List Char} (last : drop cs = none) : Pattern.dropAll drop cs = cs :=
  repeated_last last cs.length

theorem again_drops (drops : e.Drops drop bars) (shortens : Shortens drop)
    (apart : ∀ rest, bars rest → drop rest = none) {onward : Onward}
    (settles : Settles onward fun rest => bars rest ∨ (drop rest).isSome = true) {fuel : Nat}
    {s : Cursor} (enough : s.rest.length < fuel) :
    again e.run onward fuel s = onward (s.to (Pattern.dropAll drop s.rest)) := by
  induction fuel generalizing s with
  | zero => exact absurd enough (Nat.not_lt_zero _)
  | succ fuel ih =>
    -- Going on with another pass is barred wherever a pass of its own is.
    have inner : Settles (fun t => if t.rest.length < s.rest.length then again e.run onward fuel t
        else onward t) bars := by
      rcases settles with fails | never
      · refine .inl fun t barred => ?_
        have out := fails t (.inl barred)
        dsimp only
        split
        · rw [ih (by omega), drop_all_last (apart t.rest barred), to_rest, out]
        · exact out
      · refine .inr fun t => ?_
        dsimp only
        split
        · rw [ih (by omega)]
          exact never _
        · exact never t
    rw [again, drops.steps _ _ inner]
    cases dropped : drop s.rest with
    | none =>
      rw [dropping_none dropped, Option.bind_none, Option.none_or, drop_all_last dropped, to_rest]
    | some rest =>
      have shorter : (s.to rest).rest.length < s.rest.length := shortens dropped
      have later : Pattern.dropAll drop rest <:+ rest :=
        Pattern.drop_all_suffix (fun _ _ => drops.suffix) rest
      have next : again e.run onward fuel (s.to rest) =
          onward (s.to (Pattern.dropAll drop rest)) := by
        rw [ih (by omega)]
        exact congrArg onward (to_to (drops.suffix dropped) later)
      rw [dropping_some dropped, Option.bind_some, if_pos shorter, next,
        drop_all_next shortens dropped]
      rcases settles with fails | never
      · rw [fails s (.inr (by rw [dropped]; rfl)), Option.or_none]
      · rw [Option.or_of_isSome (never _)]

theorem many_drops (drops : e.Drops drop bars) (shortens : Shortens drop)
    (apart : ∀ rest, bars rest → drop rest = none) :
    (many e).Drops (fun cs => some (Pattern.dropAll drop cs))
      (fun rest => bars rest ∨ (drop rest).isSome = true) where
  steps onward s settles := by
    rw [run, again_drops drops shortens apart settles (Nat.lt_succ_self _)]
    rfl
  suffix {cs rest} dropped := by
    cases dropped
    exact Pattern.drop_all_suffix (fun _ _ => drops.suffix) cs

end

end Expression

end LineLint
