import LineLint.Matcher.Basic

/- Regular expressions, and the match that each finds in a text: the leftmost, and of those that begin
   there the first in the order of preference. What a match has captured stands in the text, within
   its bounds. -/
namespace LineLint

structure Capture where
  name : String
  start : Nat
  text : List Char
  deriving DecidableEq, Repr

/-- A place come to in a text: the characters in front of it, nearest first, and those behind it; and
    what was captured on the way, latest first. -/
structure Cursor where
  front : List Char
  rest : List Char
  captures : List Capture
  deriving DecidableEq, Repr

namespace Cursor

def whole (s : Cursor) : List Char := s.front.reverse ++ s.rest

def capture (name : String) (s t : Cursor) : Cursor :=
  { t with captures :=
      ⟨name, s.front.length, s.rest.take (s.rest.length - t.rest.length)⟩ :: t.captures }

end Cursor

abbrev Onward := Cursor → Option (List Capture)

def finish : Onward := fun s => some s.captures

/-- A regular expression: one character of a class; a test of what stands in front of a place, nearest
    first, and behind it; a place that another expression does not match; two in turn; the first of two,
    or else the second; as many times as possible; and a named part. -/
inductive Expression where
  | one (holds : Char → Bool)
  | place (holds : List Char → List Char → Bool)
  | refused (e : Expression)
  | seq (first second : Expression)
  | either (first second : Expression)
  | many (e : Expression)
  | group (name : String) (e : Expression)

namespace Expression

def again (body : Onward → Onward) (onward : Onward) : Nat → Onward
  | 0, _ => none
  | fuel + 1, s =>
      (body (fun t => if t.rest.length < s.rest.length then again body onward fuel t else onward t)
        s).or (onward s)

def run : Expression → Onward → Onward
  | one holds, onward, s =>
      match s.rest with
      | [] => none
      | c :: rest => if holds c then onward ⟨c :: s.front, rest, s.captures⟩ else none
  | place holds, onward, s => if holds s.front s.rest then onward s else none
  | refused e, onward, s => if (e.run finish s).isSome then none else onward s
  | seq first second, onward, s => first.run (second.run onward) s
  | either first second, onward, s => (first.run onward s).or (second.run onward s)
  | many e, onward, s => again e.run onward (s.rest.length + 1) s
  | group name e, onward, s => e.run (fun t => onward (Cursor.capture name s t)) s

def names : Expression → List String
  | one _ | place _ | refused _ => []
  | seq first second | either first second => first.names ++ second.names
  | many e => e.names
  | group name e => name :: e.names

def always (sought : String) : Expression → Bool
  | one _ | place _ | refused _ | many _ => false
  | seq first second => first.always sought || second.always sought
  | either first second => first.always sought && second.always sought
  | group name e => name == sought || e.always sought

end Expression

/-- A match: how many characters stand before it, and its named parts, latest first. -/
structure Match where
  start : Nat
  captures : List Capture
  deriving DecidableEq, Repr

def Match.part? (m : Match) (name : String) : Option Capture :=
  m.captures.find? fun c => c.name = name

namespace Expression

def searchFrom (e : Expression) : List Char → List Char → Option Match
  | front, [] => (e.run finish ⟨front, [], []⟩).map (Match.mk front.length)
  | front, c :: rest =>
      ((e.run finish ⟨front, c :: rest, []⟩).map (Match.mk front.length)).or
        (e.searchFrom (c :: front) rest)

def search (e : Expression) (cs : List Char) : Option Match := e.searchFrom [] cs

/-- What a match is reported as: the part `at` is pointed at if there is one of that name, and the
    other parts that are there are parameters. -/
def found (e : Expression) (m : Match) : Found where
  start := m.start
  anchor := if "at" ∈ e.names then .part ((m.part? "at").map Capture.start) else .start
  params := (e.names.filter (· ≠ "at")).filterMap fun name =>
    (m.part? name).map fun c => (name, String.ofList c.text)

end Expression

def Capture.StandsIn (c : Capture) (cs : List Char) : Prop :=
  ∃ before after, before ++ (c.text ++ after) = cs ∧ before.length = c.start

/-- What matching an expression does to a place: some of the text is passed over, and parts of it are
    captured. -/
structure Expression.Carries (e : Expression) (s t : Cursor) : Prop where
  moved : ∃ taken, s.rest = taken ++ t.rest ∧ t.front = taken.reverse ++ s.front
  captured : ∃ parts, t.captures = parts ++ s.captures ∧
    ∀ c ∈ parts, c.name ∈ e.names ∧ c.StandsIn s.whole
  always : ∀ name, e.always name = true → ∃ c ∈ t.captures, c.name = name

namespace Expression
variable {e first second : Expression} {s t u : Cursor} {onward : Onward} {captures : List Capture}

theorem carries_whole (carries : e.Carries s t) : t.whole = s.whole := by
  obtain ⟨taken, rest, front⟩ := carries.moved
  rw [Cursor.whole, Cursor.whole, front, rest, List.reverse_append, List.reverse_reverse,
    List.append_assoc]

theorem carries_captures (carries : e.Carries s t) {c : Capture} (member : c ∈ s.captures) :
    c ∈ t.captures := by
  obtain ⟨parts, eq, _⟩ := carries.captured
  rw [eq]
  exact List.mem_append_right parts member

theorem stays_carries (plain : ∀ name, e.always name = false) : e.Carries s s where
  moved := ⟨[], rfl, rfl⟩
  captured := ⟨[], rfl, fun c member => (by cases member)⟩
  always name always := by
    rw [plain] at always
    cases always

theorem one_carries {holds : Char → Bool} {c : Char} {rest : List Char} (eq : s.rest = c :: rest) :
    (one holds).Carries s ⟨c :: s.front, rest, s.captures⟩ where
  moved := ⟨[c], eq, rfl⟩
  captured := ⟨[], rfl, fun c member => (by cases member)⟩
  always name always := by cases always

theorem seq_carries (carries : first.Carries s t) (more : second.Carries t u) :
    (seq first second).Carries s u where
  moved := by
    obtain ⟨taken, rest, front⟩ := carries.moved
    obtain ⟨taken', rest', front'⟩ := more.moved
    refine ⟨taken ++ taken', ?_, ?_⟩
    · rw [rest, rest', List.append_assoc]
    · rw [front', front, List.reverse_append, List.append_assoc]
  captured := by
    obtain ⟨parts, eq, stand⟩ := carries.captured
    obtain ⟨parts', eq', stand'⟩ := more.captured
    refine ⟨parts' ++ parts, by rw [eq', eq, List.append_assoc], fun c member => ?_⟩
    rw [names, List.mem_append]
    rcases List.mem_append.mp member with later | earlier
    · obtain ⟨named, stands⟩ := stand' c later
      exact ⟨.inr named, carries_whole carries ▸ stands⟩
    · obtain ⟨named, stands⟩ := stand c earlier
      exact ⟨.inl named, stands⟩
  always name always := by
    rcases (Bool.or_eq_true _ _).mp always with inFirst | inSecond
    · obtain ⟨c, member, named⟩ := carries.always name inFirst
      exact ⟨c, carries_captures more member, named⟩
    · exact more.always name inSecond

theorem carries_wider {wider : Expression} (carries : e.Carries s t)
    (named : ∀ name ∈ e.names, name ∈ wider.names)
    (always : ∀ name, wider.always name = true → e.always name = true) : wider.Carries s t where
  moved := carries.moved
  captured := by
    obtain ⟨parts, eq, stand⟩ := carries.captured
    exact ⟨parts, eq, fun c member => ⟨named _ (stand c member).1, (stand c member).2⟩⟩
  always name sought := carries.always name (always name sought)

theorem either_carries_first (carries : first.Carries s t) : (either first second).Carries s t :=
  carries_wider carries (fun _ named => List.mem_append_left _ named)
    fun _ always => (Bool.and_eq_true_iff.mp always).1

theorem either_carries_second (carries : second.Carries s t) : (either first second).Carries s t :=
  carries_wider carries (fun _ named => List.mem_append_right _ named)
    fun _ always => (Bool.and_eq_true_iff.mp always).2

theorem many_carries (carries : e.Carries s t) (more : (many e).Carries t u) :
    (many e).Carries s u :=
  carries_wider (seq_carries carries more)
    (fun _ named => (List.mem_append.mp named).elim id id)
    fun _ always => by cases always

theorem group_carries (name : String) (carries : e.Carries s t) :
    (group name e).Carries s (Cursor.capture name s t) where
  moved := carries.moved
  captured := by
    obtain ⟨taken, rest, front⟩ := carries.moved
    obtain ⟨parts, eq, stand⟩ := carries.captured
    refine ⟨_ :: parts, congrArg (List.cons _) eq, fun c member => ?_⟩
    rcases List.mem_cons.mp member with rfl | inner
    · refine ⟨List.mem_cons_self, s.front.reverse, t.rest, ?_, List.length_reverse⟩
      have text : s.rest.take (s.rest.length - t.rest.length) = taken := by
        rw [rest, List.length_append, Nat.add_sub_cancel, List.take_left]
      rw [text, ← rest, Cursor.whole]
    · exact ⟨List.mem_cons_of_mem name (stand c inner).1, (stand c inner).2⟩
  always sought always := by
    rcases (Bool.or_eq_true _ _).mp always with here | inside
    · exact ⟨_, List.mem_cons_self, beq_iff_eq.mp here⟩
    · obtain ⟨c, member, named⟩ := carries.always sought inside
      exact ⟨c, List.mem_cons_of_mem _ member, named⟩

def Sound (e : Expression) : Prop :=
  ∀ onward s captures, e.run onward s = some captures →
    ∃ t, e.Carries s t ∧ onward t = some captures

theorem again_sound (sound : e.Sound) (fuel : Nat)
    (matched : again e.run onward fuel s = some captures) :
    ∃ t, (many e).Carries s t ∧ onward t = some captures := by
  induction fuel generalizing s with
  | zero => cases matched
  | succ fuel ih =>
    rcases Option.or_eq_some_iff.mp matched with pass | ⟨_, out⟩
    · obtain ⟨t, carries, later⟩ := sound _ _ _ pass
      have last : (many e).Carries t t := stays_carries fun _ => rfl
      split at later
      · obtain ⟨u, more, done⟩ := ih later
        exact ⟨u, many_carries carries more, done⟩
      · exact ⟨t, many_carries carries last, later⟩
    · exact ⟨s, stays_carries fun _ => rfl, out⟩

theorem run_sound (e : Expression) : e.Sound := by
  induction e with
  | one holds =>
    intro onward s captures matched
    rw [run] at matched
    split at matched
    · cases matched
    · rename_i c rest eq
      obtain ⟨_, out⟩ := Option.ite_none_right_eq_some.mp matched
      exact ⟨_, one_carries eq, out⟩
  | place holds =>
    intro onward s captures matched
    obtain ⟨_, out⟩ := Option.ite_none_right_eq_some.mp matched
    exact ⟨s, stays_carries fun _ => rfl, out⟩
  | refused e _ =>
    intro onward s captures matched
    obtain ⟨_, out⟩ := Option.ite_none_left_eq_some.mp matched
    exact ⟨s, stays_carries fun _ => rfl, out⟩
  | seq first second ih ih' =>
    intro onward s captures matched
    obtain ⟨t, carries, later⟩ := ih _ _ _ matched
    obtain ⟨u, more, out⟩ := ih' _ _ _ later
    exact ⟨u, seq_carries carries more, out⟩
  | either first second ih ih' =>
    intro onward s captures matched
    rcases Option.or_eq_some_iff.mp matched with inFirst | ⟨_, inSecond⟩
    · obtain ⟨t, carries, out⟩ := ih _ _ _ inFirst
      exact ⟨t, either_carries_first carries, out⟩
    · obtain ⟨t, carries, out⟩ := ih' _ _ _ inSecond
      exact ⟨t, either_carries_second carries, out⟩
  | many e ih =>
    intro onward s captures matched
    exact again_sound ih _ matched
  | group name e ih =>
    intro onward s captures matched
    obtain ⟨t, carries, out⟩ := ih _ _ _ matched
    exact ⟨_, group_carries name carries, out⟩

/-- A match begins within the text, its parts stand in the text, and none that is always there is
    missing. -/
structure Fits (e : Expression) (cs : List Char) (m : Match) : Prop where
  starts : m.start ≤ cs.length
  stands : ∀ c ∈ m.captures, c.name ∈ e.names ∧ c.StandsIn cs
  always : ∀ name, e.always name = true → ∃ c, m.part? name = some c

theorem run_fits {front rest : List Char}
    (matched : e.run finish ⟨front, rest, []⟩ = some captures) :
    e.Fits (front.reverse ++ rest) ⟨front.length, captures⟩ := by
  obtain ⟨t, carries, out⟩ := e.run_sound _ _ _ matched
  obtain rfl : t.captures = captures := Option.some.inj out
  refine ⟨?_, ?_, fun name always => ?_⟩
  · simp
  · obtain ⟨parts, eq, stand⟩ := carries.captured
    rw [List.append_nil] at eq
    rw [eq]
    exact stand
  · obtain ⟨c, member, named⟩ := carries.always name always
    rw [← Option.isSome_iff_exists, Match.part?, List.find?_isSome]
    exact ⟨c, member, decide_eq_true named⟩

theorem search_from_fits {front rest : List Char} {m : Match}
    (matched : e.searchFrom front rest = some m) : e.Fits (front.reverse ++ rest) m := by
  induction rest generalizing front with
  | nil =>
    obtain ⟨captures, here, rfl⟩ := Option.map_eq_some_iff.mp matched
    exact run_fits here
  | cons c rest ih =>
    rcases Option.or_eq_some_iff.mp matched with now | ⟨_, later⟩
    · obtain ⟨captures, here, rfl⟩ := Option.map_eq_some_iff.mp now
      exact run_fits here
    · have fits := ih later
      rwa [List.reverse_cons, List.append_assoc] at fits

theorem search_fits {cs : List Char} {m : Match} (matched : e.search cs = some m) : e.Fits cs m :=
  search_from_fits matched

theorem part_stands {cs : List Char} {m : Match} (fits : e.Fits cs m) {name : String} {c : Capture}
    (part : m.part? name = some c) : name ∈ e.names ∧ c.StandsIn cs := by
  unfold Match.part? at part
  have sought := List.find?_some part
  have named : c.name = name := of_decide_eq_true sought
  rw [← named]
  exact fits.stands c (List.mem_of_find?_eq_some part)

theorem stands_within {cs : List Char} {c : Capture} (stands : c.StandsIn cs) :
    c.start + c.text.length ≤ cs.length := by
  obtain ⟨before, after, rfl, start⟩ := stands
  simp only [List.length_append]
  omega

/-- The column of a match: one after where the part `at` begins, if there is one; one after where the
    match begins, if no part is of that name. It is 0 only if a part of that name has been left out. -/
theorem found_column {cs : List Char} {m : Match} (matched : e.search cs = some m) :
    (∀ c, m.part? "at" = some c → "at" ∈ e.names ∧ (e.found m).column = c.start + 1) ∧
    ("at" ∉ e.names → (e.found m).column = m.start + 1) ∧
    ((e.found m).column = 0 ↔ "at" ∈ e.names ∧ m.part? "at" = none) ∧
    (e.found m).column ≤ cs.length + 1 := by
  have fits := search_fits matched
  cases part : m.part? "at" with
  | some c =>
    obtain ⟨declared, stands⟩ := part_stands fits part
    have column : (e.found m).column = c.start + 1 := by
      simp [found, declared, part, Found.column]
    have := stands_within stands
    refine ⟨fun d eq => ?_, fun missing => absurd declared missing, ?_, by omega⟩
    · cases eq
      exact ⟨declared, column⟩
    · simp [column]
  | none =>
    refine ⟨fun d eq => (by cases eq), ?_⟩
    by_cases declared : "at" ∈ e.names
    · have column : (e.found m).column = 0 := by
        simp [found, declared, part, Found.column]
      exact ⟨fun missing => absurd declared missing, by simp [column, declared], by omega⟩
    · have column : (e.found m).column = m.start + 1 := by
        simp [found, declared, Found.column]
      have := fits.starts
      exact ⟨fun _ => column, by simp [column, declared], by omega⟩

end Expression

end LineLint
