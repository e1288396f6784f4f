import LineLint.Glob.Bracket

/- Bracketed sets as they are written. Where a set ends is decided by the text behind the opening
   bracket, and a set that is written item by item, with hyphens in ranges only, is read as these
   items. -/
namespace LineLint.Bracket

/-- What can stand between two brackets. A closing one is among it in the first place only, or in the
    second after an exclamation mark. -/
def Encloses (inside : List Char) : Prop :=
  ∃ front first others, inside = front ++ first :: others ∧
    (front = ['!'] ∨ front = [] ∧ first ≠ '!') ∧ ']' ∉ others

theorem split_at_iff {cs inside after : List Char} :
    splitAt cs = some (inside, after) ↔ cs = inside ++ ']' :: after ∧ ']' ∉ inside := by
  induction cs generalizing inside with
  | nil => simp [splitAt]
  | cons c cs ih =>
    by_cases close : c = ']'
    · subst close
      have closed : splitAt (']' :: cs) = some ([], cs) := rfl
      cases inside with
      | nil => simp [closed, eq_comm]
      | cons d inside =>
        simp only [closed, Option.some.injEq, Prod.mk.injEq, List.mem_cons, not_or]
        constructor
        · rintro ⟨none, _⟩
          cases none
        · rintro ⟨whole, other, _⟩
          exact absurd (List.cons.inj whole).1 other
    · have goesOn : splitAt (c :: cs) = (splitAt cs).map fun cut => (c :: cut.1, cut.2) := by
        rw [splitAt]
        exact close
      simp only [goesOn, Option.map_eq_some_iff, Prod.exists, Prod.mk.injEq]
      constructor
      · rintro ⟨later, _, found, rfl, rfl⟩
        obtain ⟨rfl, free⟩ := ih.mp found
        exact ⟨rfl, by simp [Ne.symm close, free]⟩
      · rintro ⟨whole, free⟩
        cases inside with
        | nil => exact absurd (List.cons.inj whole).1 close
        | cons d inside =>
          obtain ⟨rfl, rfl⟩ := List.cons.inj whole
          exact ⟨inside, after, ih.mpr ⟨rfl, fun among => free (.tail _ among)⟩, rfl, rfl⟩

theorem split_first_iff {cs inside after : List Char} :
    splitFirst cs = some (inside, after) ↔
      ∃ first others, inside = first :: others ∧ cs = inside ++ ']' :: after ∧ ']' ∉ others := by
  unfold splitFirst
  split
  · rename_i rest
    simp only [Option.map_eq_some_iff, Prod.exists, Prod.mk.injEq, split_at_iff]
    constructor
    · rintro ⟨others, _, ⟨rfl, free⟩, rfl, rfl⟩
      exact ⟨_, others, rfl, rfl, free⟩
    · rintro ⟨first, others, rfl, whole, free⟩
      obtain ⟨rfl, rfl⟩ := List.cons.inj whole
      exact ⟨others, after, ⟨rfl, free⟩, rfl, rfl⟩
  · rename_i other
    rw [split_at_iff]
    constructor
    · rintro ⟨rfl, free⟩
      cases inside with
      | nil => exact absurd rfl (other after)
      | cons first others => exact ⟨first, others, rfl, rfl, fun among => free (.tail _ among)⟩
    · rintro ⟨first, others, rfl, rfl, free⟩
      refine ⟨rfl, fun among => ?_⟩
      rcases List.mem_cons.mp among with rfl | later
      · exact other _ rfl
      · exact free later

theorem split_iff {cs inside after : List Char} :
    split cs = some (inside, after) ↔ cs = inside ++ ']' :: after ∧ Encloses inside := by
  unfold split
  split
  · rename_i rest
    simp only [Option.map_eq_some_iff, Prod.exists, Prod.mk.injEq, split_first_iff]
    constructor
    · rintro ⟨_, _, ⟨first, others, rfl, rfl, free⟩, rfl, rfl⟩
      exact ⟨rfl, ['!'], first, others, rfl, .inl rfl, free⟩
    · rintro ⟨whole, front, first, others, rfl, marked | ⟨rfl, other⟩, free⟩
      · subst marked
        obtain ⟨_, rfl⟩ := List.cons.inj whole
        exact ⟨_, _, ⟨first, others, rfl, rfl, free⟩, rfl, rfl⟩
      · exact absurd (List.cons.inj whole).1.symm other
  · rename_i unmarked
    rw [split_first_iff]
    constructor
    · rintro ⟨first, others, rfl, rfl, free⟩
      refine ⟨rfl, [], first, others, rfl, .inr ⟨rfl, ?_⟩, free⟩
      rintro rfl
      exact unmarked _ rfl
    · rintro ⟨rfl, front, first, others, rfl, marked | ⟨rfl, _⟩, free⟩
      · subst marked
        exact absurd rfl (unmarked _)
      · exact ⟨first, others, rfl, rfl, free⟩

theorem split_none_iff {cs : List Char} :
    split cs = none ↔ ∀ inside after, cs = inside ++ ']' :: after → ¬ Encloses inside := by
  rw [Option.eq_none_iff_forall_ne_some]
  simp only [Prod.forall, ne_eq, split_iff, not_and]

def Item.written : Item → List Char
  | .single c => [c]
  | .range lo hi => [lo, '-', hi]

/-- An item without hyphens but that of a range, whose ends are in order. -/
def Item.Plain : Item → Prop
  | .single c => c ≠ '-'
  | .range lo hi => lo ≠ '-' ∧ hi ≠ '-' ∧ lo.toNat ≤ hi.toNat

def partsOf : List Item → List (List Char)
  | [] => [[]]
  | .single c :: items => consToFirst c (partsOf items)
  | .range lo hi :: items => [lo] :: consToFirst hi (partsOf items)

theorem chunks_cons {kept : Nat} {c : Char} (other : c ≠ '-') (cs : List Char) :
    chunks kept (c :: cs) = consToFirst c (chunks (kept - 1) cs) := by
  rw [chunks]
  exact fun _ => other

theorem chunks_written {items : List Item} (plain : ∀ item ∈ items, item.Plain) {kept : Nat}
    (next : kept ≤ 1) : chunks kept (items.flatMap Item.written) = partsOf items := by
  induction items generalizing kept with
  | nil => rfl
  | cons item items ih =>
    obtain ⟨own, others⟩ := List.forall_mem_cons.mp plain
    cases item with
    | single c =>
      have rest : chunks (kept - 1) (items.flatMap Item.written) = partsOf items :=
        ih others (by omega)
      rw [List.flatMap_cons, Item.written, List.singleton_append, chunks_cons own, rest, partsOf]
    | range lo hi =>
      have rest : chunks (2 - 1) (items.flatMap Item.written) = partsOf items :=
        ih others (Nat.le_refl 1)
      have first : kept - 1 = 0 := by omega
      rw [List.flatMap_cons, Item.written, List.cons_append, chunks_cons own.1, first]
      have hyphen (cs : List Char) : chunks 0 ('-' :: cs) = [] :: chunks 2 cs := rfl
      rw [List.cons_append, hyphen, List.singleton_append, chunks_cons own.2.1, rest, partsOf]
      rfl

/-- Parts of a set in which each hyphen between two parts stands for a range that holds something. -/
inductive Ranged : List (List Char) → Prop
  | last (part : List Char) : Ranged [part]
  | next {lo hi : Char} {others : List Char} {later : List (List Char)} (front : List Char)
      (ordered : lo.toNat ≤ hi.toNat) (ranged : Ranged ((hi :: others) :: later)) :
      Ranged ((front ++ [lo]) :: (hi :: others) :: later)

theorem ranged_cons (c : Char) {parts : List (List Char)} (ranged : Ranged parts) :
    Ranged (consToFirst c parts) := by
  cases ranged with
  | last part => exact .last (c :: part)
  | next front ordered ranged => exact .next (c :: front) ordered ranged

theorem parts_ranged {items : List Item} (plain : ∀ item ∈ items, item.Plain) :
    Ranged (partsOf items) := by
  induction items with
  | nil => exact .last []
  | cons item items ih =>
    obtain ⟨own, others⟩ := List.forall_mem_cons.mp plain
    cases item with
    | single c => exact ranged_cons c (ih others)
    | range lo hi =>
      have rest := ranged_cons hi (ih others)
      rw [partsOf]
      cases found : partsOf items with
      | nil => exact .next [] own.2.2 (.last [hi])
      | cons first later =>
        rw [found] at rest
        exact .next [] own.2.2 rest

theorem close_ranged {parts : List (List Char)} (ranged : Ranged parts) :
    closeChunks parts = parts := by
  induction ranged with
  | last part => rfl
  | next front ordered ranged ih =>
    have goesOn (chunk others : List Char) (hi : Char) (later : List (List Char)) :
        closeChunks (chunk :: (hi :: others) :: later) =
          chunk :: closeChunks ((hi :: others) :: later) := rfl
    rw [goesOn, ih]

theorem drop_ranged {parts : List (List Char)} (ranged : Ranged parts) :
    dropEmptyRanges parts = parts := by
  induction ranged with
  | last part => rfl
  | @next lo hi others later front ordered ranged ih =>
    have held : isEmptyRange (front ++ [lo]) (hi :: others) = false := by
      simp [isEmptyRange, ordered]
    rw [dropEmptyRanges, ih]
    simp only [held, Bool.false_eq_true, if_false]

theorem read_items_single (c : Char) {parts : List (List Char)} (ranged : Ranged parts) :
    readItems 0 (consToFirst c parts) = .single c :: readItems 0 parts := by
  cases ranged with
  | last part => rfl
  | @next lo hi others later front ordered ranged =>
    have ends (front : List Char) :
        readItems 0 ((front ++ [lo]) :: (hi :: others) :: later) =
          front.map .single ++ .range lo hi :: readItems 1 ((hi :: others) :: later) := by
      simp [readItems]
    have longer := ends (c :: front)
    rw [ends front]
    exact longer

theorem read_items_spent (c : Char) (parts : List (List Char)) :
    readItems 1 (consToFirst c parts) = readItems 0 parts := by
  cases parts with
  | nil => rfl
  | cons part parts => cases parts <;> rfl

theorem read_items_range (lo hi : Char) (parts : List (List Char)) :
    readItems 0 ([lo] :: consToFirst hi parts) = .range lo hi :: readItems 0 parts := by
  rw [← read_items_spent hi parts]
  cases parts <;> rfl

theorem read_items_parts {items : List Item} (plain : ∀ item ∈ items, item.Plain) :
    readItems 0 (partsOf items) = items := by
  induction items with
  | nil => rfl
  | cons item items ih =>
    obtain ⟨_, others⟩ := List.forall_mem_cons.mp plain
    cases item with
    | single c => rw [partsOf, read_items_single c (parts_ranged others), ih others]
    | range lo hi => rw [partsOf, read_items_range, ih others]

theorem parts_begin (items : List Item) :
    ∃ first later, partsOf items = first :: later ∧
      first.head? = (items.flatMap Item.written).head? := by
  cases items with
  | nil => exact ⟨[], [], rfl, rfl⟩
  | cons item items =>
    cases item with
    | single c =>
      cases found : partsOf items with
      | nil => exact ⟨[c], [], by rw [partsOf, found]; rfl, rfl⟩
      | cons first later => exact ⟨c :: first, later, by rw [partsOf, found]; rfl, rfl⟩
    | range lo hi => exact ⟨[lo], _, rfl, rfl⟩

theorem read_written {items : List Item} (plain : ∀ item ∈ items, item.Plain)
    (unmarked : (items.flatMap Item.written).head? ≠ some '!') :
    read (items.flatMap Item.written) = ⟨false, items⟩ := by
  obtain ⟨first, later, parts, begins⟩ := parts_begin items
  have whole := read_items_parts plain
  simp only [read, if_neg unmarked, chunks_written plain (Nat.le_refl 1),
    close_ranged (parts_ranged plain), drop_ranged (parts_ranged plain)]
  rw [parts] at whole ⊢
  split
  · -- A first part of a single exclamation mark would begin the set with it.
    rename_i marked
    obtain ⟨rfl, _⟩ := List.cons.inj marked
    exact absurd begins.symm unmarked
  · rw [whole]

theorem read_marked {items : List Item} (plain : ∀ item ∈ items, item.Plain) :
    read ('!' :: items.flatMap Item.written) = ⟨true, items⟩ := by
  have ranged := ranged_cons '!' (parts_ranged plain)
  obtain ⟨first, later, parts, _⟩ := parts_begin items
  have whole := read_items_parts plain
  have other : '!' ≠ '-' := by decide
  simp only [read, List.head?_cons, if_true, chunks_cons other, Nat.add_one_sub_one,
    chunks_written plain (Nat.le_refl 1), close_ranged ranged, drop_ranged ranged]
  rw [parts] at whole ⊢
  simp only [consToFirst, whole]

end LineLint.Bracket
