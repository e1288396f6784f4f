import LineLint.Proofs.Text.Search

/- Runs of characters of one class, each with what follows it: where a run ends is decided by the text,
   so a text is cut after one in a single way. No white space is a word character. -/
namespace LineLint.Text

def Blank (cs : List Char) : Prop := ∀ c ∈ cs, isBlank c = true

theorem blank_append {cs ds : List Char} : Blank (cs ++ ds) ↔ Blank cs ∧ Blank ds :=
  List.forall_mem_append

def Stops (holds : Char → Bool) (rest : List Char) : Prop := rest.head?.any holds = false

structure SomeOf (holds : Char → Bool) (cs : List Char) : Prop where
  some : cs ≠ []
  all : ∀ c ∈ cs, holds c = true

structure IsRun (holds : Char → Bool) (run rest : List Char) : Prop extends SomeOf holds run where
  stops : Stops holds rest

theorem stops_append {holds other : Char → Bool} {cs : List Char} (some : SomeOf other cs)
    (apart : ∀ c, other c = true → holds c = false) (rest : List Char) :
    Stops holds (cs ++ rest) := by
  obtain ⟨c, more, rfl⟩ := List.exists_cons_of_ne_nil some.some
  exact apart c (some.all c List.mem_cons_self)

theorem take_while_append {holds : Char → Bool} {run rest : List Char}
    (all : ∀ c ∈ run, holds c = true) (stops : Stops holds rest) :
    (run ++ rest).takeWhile holds = run := by
  rw [List.takeWhile_append_of_pos all]
  cases rest with
  | nil => simp
  | cons c rest =>
    have other : holds c = false := stops
    rw [List.takeWhile_cons, other, if_neg Bool.false_ne_true, List.append_nil]

theorem drop_while_append {holds : Char → Bool} {run rest : List Char}
    (all : ∀ c ∈ run, holds c = true) (stops : Stops holds rest) :
    (run ++ rest).dropWhile holds = rest := by
  rw [List.dropWhile_append_of_pos all]
  cases rest with
  | nil => rfl
  | cons c rest =>
    have other : holds c = false := stops
    rw [List.dropWhile_cons, other, if_neg Bool.false_ne_true]

theorem drop_while_stops (holds : Char → Bool) (cs : List Char) :
    Stops holds (cs.dropWhile holds) := by
  have head := List.head?_dropWhile_not holds cs
  unfold Stops
  cases begins : (cs.dropWhile holds).head? with
  | none => rfl
  | some c =>
    rw [begins] at head
    exact head

theorem take_while_run {holds : Char → Bool} {cs : List Char} (some : cs.takeWhile holds ≠ []) :
    IsRun holds (cs.takeWhile holds) (cs.dropWhile holds) :=
  ⟨⟨some, List.all_eq_true.mp List.all_takeWhile⟩, drop_while_stops holds cs⟩

theorem run_unique {holds : Char → Bool} {run run' rest rest' : List Char}
    (all : ∀ c ∈ run, holds c = true) (stops : Stops holds rest)
    (all' : ∀ c ∈ run', holds c = true) (stops' : Stops holds rest')
    (same : run ++ rest = run' ++ rest') : run = run' ∧ rest = rest' := by
  have runs := congrArg (List.takeWhile holds) same
  have rests := congrArg (List.dropWhile holds) same
  rw [take_while_append all stops, take_while_append all' stops'] at runs
  rw [drop_while_append all stops, drop_while_append all' stops'] at rests
  exact ⟨runs, rests⟩

theorem take_some_iff {holds : Char → Bool} {cs run rest : List Char} :
    takeSome holds cs = some (run, rest) ↔ cs = run ++ rest ∧ IsRun holds run rest := by
  rw [take_some_eq_some]
  constructor
  · rintro ⟨rfl, rfl, some⟩
    exact ⟨List.takeWhile_append_dropWhile.symm, take_while_run some⟩
  · rintro ⟨rfl, run⟩
    exact ⟨(take_while_append run.all run.stops).symm, (drop_while_append run.all run.stops).symm,
      run.some⟩

def Ranges.Apart (rs ss : Ranges) : Prop := ∀ r ∈ rs, ∀ s ∈ ss, r.2 < s.1 ∨ s.2 < r.1

theorem ranges_holds_within {rs : Ranges} {n : Nat} (holds : rs.holds n = true) :
    ∃ r ∈ rs, r.1 ≤ n ∧ n ≤ r.2 := by
  induction rs with
  | nil => cases holds
  | cons r rest ih =>
    simp only [Ranges.holds] at holds
    split at holds
    · cases holds
    · rename_i reached
      rcases (Bool.or_eq_true _ _).mp holds with inside | later
      · exact ⟨r, List.mem_cons_self, Nat.le_of_not_lt reached, of_decide_eq_true inside⟩
      · obtain ⟨s, member, bounds⟩ := ih later
        exact ⟨s, List.mem_cons_of_mem r member, bounds⟩

theorem ranges_apart {rs ss : Ranges} (apart : rs.Apart ss) {n : Nat} (holds : rs.holds n = true) :
    ss.holds n = false := by
  rw [Bool.eq_false_iff]
  intro both
  obtain ⟨r, ofFirst, _, _⟩ := ranges_holds_within holds
  obtain ⟨s, ofSecond, _, _⟩ := ranges_holds_within both
  have := apart r ofFirst s ofSecond
  omega

theorem blank_not_word {c : Char} (blank : isBlank c = true) : isWord c = false := by
  have apart : blankRanges.Apart letterOrNumberRanges := by
    unfold Ranges.Apart
    decide +kernel
  have underscore : (c == '_') = false := by
    rw [beq_eq_false_iff_ne]
    rintro rfl
    cases blank
  rw [isWord, underscore, ranges_apart apart blank, Bool.or_self]

theorem word_not_blank {c : Char} (word : isWord c = true) : isBlank c = false := by
  rw [Bool.eq_false_iff]
  intro blank
  rw [blank_not_word blank] at word
  cases word

theorem word_stops_blanks {word : List Char} (some : SomeOf isWord word) (rest : List Char) :
    Stops isBlank (word ++ rest) :=
  stops_append some (fun _ => word_not_blank) rest

theorem blank_stops_words {gap : List Char} (some : SomeOf isBlank gap) (rest : List Char) :
    Stops isWord (gap ++ rest) :=
  stops_append some (fun _ => blank_not_word) rest

end LineLint.Text
