import LineLint.Glob
import LineLint.Proofs.Glob.Brackets
import Mathlib.Data.List.Forall2

/- What a glob stands for. The answers for all endings of a text are made from the last piece to the
   first; read from the first piece on, they say that a text is cut into parts, one for each piece. -/
namespace LineLint

namespace Glob

/-- A pattern and a text that it stands for, read from the front. -/
inductive StandsFor : List Char → List Char → Prop
  | nothing : StandsFor [] []
  | anyText {rest cs : List Char} (taken : List Char) (later : StandsFor rest cs) :
      StandsFor ('*' :: rest) (taken ++ cs)
  | anyCharacter {rest cs : List Char} (c : Char) (later : StandsFor rest cs) :
      StandsFor ('?' :: rest) (c :: cs)
  | among {inside after cs : List Char} {c : Char} (encloses : Bracket.Encloses inside)
      (holds : (Bracket.read inside).accepts c = true) (later : StandsFor after cs) :
      StandsFor ('[' :: (inside ++ ']' :: after)) (c :: cs)
  | unclosed {rest cs : List Char}
      (lone : ∀ inside after, rest = inside ++ ']' :: after → ¬ Bracket.Encloses inside)
      (later : StandsFor rest cs) : StandsFor ('[' :: rest) ('[' :: cs)
  | itself {c : Char} {rest cs : List Char} (plain : c ≠ '*' ∧ c ≠ '?' ∧ c ≠ '[')
      (later : StandsFor rest cs) : StandsFor (c :: rest) (c :: cs)

theorem endings_longer (pieces : List Piece) (c : Char) (cs : List Char) :
    ∃ answer, endings pieces (c :: cs) = answer :: endings pieces cs := by
  induction pieces with
  | nil => exact ⟨false, rfl⟩
  | cons p pieces ih =>
    obtain ⟨answer, longer⟩ := ih
    cases p with
    | run =>
      have row (ds : List Char) : endings (.run :: pieces) ds = anyLater (endings pieces ds) := rfl
      rw [row, row, longer]
      exact ⟨_, rfl⟩
    | _ =>
      simp only [endings, longer]
      exact ⟨_, rfl⟩

theorem endings_cons (pieces : List Piece) (c : Char) (cs : List Char) :
    endings pieces (c :: cs) = matchesText pieces (c :: cs) :: endings pieces cs := by
  obtain ⟨answer, longer⟩ := endings_longer pieces c cs
  rw [matchesText, longer, List.headD_cons]

theorem endings_nil (pieces : List Piece) : endings pieces [] = [matchesText pieces []] := by
  induction pieces with
  | nil => rfl
  | cons p pieces ih =>
    cases p with
    | run =>
      have row : endings (.run :: pieces) [] = anyLater (endings pieces []) := rfl
      rw [matchesText, row, ih]
      rfl
    | _ => rfl

theorem any_later_head (row : List Bool) : (anyLater row).headD false = row.any id := by
  cases row <;> rfl

theorem matches_nothing_iff {cs : List Char} : matchesText [] cs = true ↔ cs = [] := by
  cases cs <;> simp [matchesText, endings]

theorem matches_run_iff {pieces : List Piece} {cs : List Char} :
    matchesText (.run :: pieces) cs = true ↔
      ∃ taken later, cs = taken ++ later ∧ matchesText pieces later = true := by
  have row (ds : List Char) : matchesText (.run :: pieces) ds = (endings pieces ds).any id :=
    any_later_head (endings pieces ds)
  rw [row]
  induction cs with
  | nil =>
    rw [endings_nil]
    constructor
    · intro found
      exact ⟨[], [], rfl, by simpa using found⟩
    · rintro ⟨taken, later, whole, found⟩
      obtain ⟨rfl, rfl⟩ := List.append_eq_nil_iff.mp whole.symm
      simpa using found
  | cons c cs ih =>
    rw [endings_cons, List.any_cons, Bool.or_eq_true]
    constructor
    · rintro (found | further)
      · exact ⟨[], c :: cs, rfl, found⟩
      · obtain ⟨taken, later, rfl, found⟩ := ih.mp further
        exact ⟨c :: taken, later, rfl, found⟩
    · rintro ⟨taken, later, whole, found⟩
      cases taken with
      | nil =>
        subst whole
        exact .inl found
      | cons d taken =>
        obtain ⟨rfl, rfl⟩ := List.cons.inj whole
        exact .inr (ih.mpr ⟨taken, later, rfl, found⟩)

theorem matches_one_iff {p : Piece} {pieces : List Piece} {cs : List Char} (one : p ≠ .run) :
    matchesText (p :: pieces) cs = true ↔
      ∃ c later, cs = c :: later ∧ p.accepts c = true ∧ matchesText pieces later = true := by
  have row (ds : List Char) : endings (p :: pieces) ds = step p ds (endings pieces ds) := by
    cases p with
    | run => exact absurd rfl one
    | _ => rfl
  cases cs with
  | nil => simp [matchesText, row, step]
  | cons c cs =>
    rw [matchesText, row, endings_cons, step, List.headD_cons, Bool.and_eq_true]
    constructor
    · rintro ⟨accepts, found⟩
      exact ⟨c, cs, rfl, accepts, found⟩
    · rintro ⟨d, later, whole, accepts, found⟩
      obtain ⟨rfl, rfl⟩ := List.cons.inj whole
      exact ⟨accepts, found⟩

inductive Leads : List Char → Piece → List Char → Prop
  | run (rest : List Char) : Leads ('*' :: rest) .run rest
  | any (rest : List Char) : Leads ('?' :: rest) .any rest
  | bracket {rest inside after : List Char} (closed : Bracket.split rest = some (inside, after)) :
      Leads ('[' :: rest) (.bracket (Bracket.read inside)) after
  | unclosed {rest : List Char} (lone : Bracket.split rest = none) :
      Leads ('[' :: rest) (.character '[') rest
  | character {c : Char} {rest : List Char} (plain : c ≠ '*' ∧ c ≠ '?' ∧ c ≠ '[') :
      Leads (c :: rest) (.character c) rest

theorem leads_exists (c : Char) (rest : List Char) : ∃ piece after, Leads (c :: rest) piece after := by
  by_cases run : c = '*'
  · subst run
    exact ⟨_, _, .run rest⟩
  by_cases any : c = '?'
  · subst any
    exact ⟨_, _, .any rest⟩
  by_cases opens : c = '['
  · subst opens
    cases closed : Bracket.split rest with
    | none => exact ⟨_, _, .unclosed closed⟩
    | some cut => exact ⟨_, _, .bracket closed⟩
  · exact ⟨_, _, .character ⟨run, any, opens⟩⟩

theorem leads_shortens {pattern after : List Char} {piece : Piece}
    (leads : Leads pattern piece after) : after.length < pattern.length := by
  cases leads with
  | @bracket rest inside after closed =>
    obtain ⟨rfl, _⟩ := Bracket.split_iff.mp closed
    simp only [List.length_cons, List.length_append]
    omega
  | _ => exact Nat.lt_succ_self _

theorem read_with_leads {pattern after : List Char} {piece : Piece}
    (leads : Leads pattern piece after) (fuel : Nat) :
    readWith (fuel + 1) pattern = piece :: readWith fuel after := by
  cases leads with
  | run rest => rfl
  | any rest => rfl
  | bracket closed => simp only [readWith, closed]
  | unclosed lone => simp only [readWith, lone]
  | character plain =>
    rw [readWith]
    · exact plain.1
    · exact plain.2.1
    · exact plain.2.2

theorem read_with_enough {fuel fuel' : Nat} {pattern : List Char} (enough : pattern.length ≤ fuel)
    (enough' : pattern.length ≤ fuel') : readWith fuel pattern = readWith fuel' pattern := by
  induction fuel generalizing fuel' pattern with
  | zero =>
    have none : pattern = [] := List.length_eq_zero_iff.mp (Nat.le_zero.mp enough)
    subst none
    cases fuel' <;> rfl
  | succ fuel ih =>
    cases pattern with
    | nil => cases fuel' <;> rfl
    | cons c rest =>
      obtain ⟨piece, after, leads⟩ := leads_exists c rest
      have shorter := leads_shortens leads
      cases fuel' with
      | zero => cases enough'
      | succ fuel' =>
        rw [read_with_leads leads, read_with_leads leads, ih]
        all_goals omega

theorem read_leads {pattern after : List Char} {piece : Piece} (leads : Leads pattern piece after) :
    read pattern = piece :: read after := by
  have shorter := leads_shortens leads
  obtain ⟨fuel, long⟩ : ∃ fuel, pattern.length = fuel + 1 :=
    Nat.exists_eq_add_one_of_ne_zero (by omega)
  rw [read, long, read_with_leads leads, read]
  exact congrArg (piece :: ·) (read_with_enough (by omega) (Nat.le_refl _))

theorem stands_for_iff {pattern text : List Char} :
    StandsFor pattern text ↔ matchesText (read pattern) text = true := by
  constructor
  · intro stands
    induction stands with
    | nothing => rfl
    | anyText taken later ih =>
      rw [read_leads (.run _)]
      exact matches_run_iff.mpr ⟨taken, _, rfl, ih⟩
    | anyCharacter c later ih =>
      rw [read_leads (.any _)]
      exact (matches_one_iff (by simp)).mpr ⟨c, _, rfl, rfl, ih⟩
    | among encloses holds later ih =>
      rw [read_leads (.bracket (Bracket.split_iff.mpr ⟨rfl, encloses⟩))]
      exact (matches_one_iff (by simp)).mpr ⟨_, _, rfl, holds, ih⟩
    | unclosed lone later ih =>
      rw [read_leads (.unclosed (Bracket.split_none_iff.mpr lone))]
      exact (matches_one_iff (by simp)).mpr ⟨_, _, rfl, rfl, ih⟩
    | itself plain later ih =>
      rw [read_leads (.character plain)]
      exact (matches_one_iff (by simp)).mpr ⟨_, _, rfl, by simp [Piece.accepts], ih⟩
  · intro matched
    -- A set takes several characters of the pattern at once, so the induction is on its length.
    induction size : pattern.length using Nat.strongRecOn generalizing pattern text with
    | ind size ih =>
      cases pattern with
      | nil =>
        rw [matches_nothing_iff.mp matched]
        exact .nothing
      | cons c rest =>
        obtain ⟨piece, after, leads⟩ := leads_exists c rest
        have shorter := leads_shortens leads
        rw [read_leads leads] at matched
        have later {cs : List Char} (found : matchesText (read after) cs = true) : StandsFor after cs :=
          ih after.length (size ▸ shorter) found rfl
        cases leads with
        | run rest =>
          obtain ⟨taken, cs, rfl, found⟩ := matches_run_iff.mp matched
          exact .anyText taken (later found)
        | any rest =>
          obtain ⟨c, cs, rfl, _, found⟩ := (matches_one_iff (by simp)).mp matched
          exact .anyCharacter c (later found)
        | bracket closed =>
          obtain ⟨c, cs, rfl, holds, found⟩ := (matches_one_iff (by simp)).mp matched
          obtain ⟨rfl, encloses⟩ := Bracket.split_iff.mp closed
          exact .among encloses holds (later found)
        | unclosed lone =>
          obtain ⟨c, cs, rfl, same, found⟩ := (matches_one_iff (by simp)).mp matched
          obtain rfl := eq_of_beq same
          exact .unclosed (Bracket.split_none_iff.mp lone) (later found)
        | character plain =>
          obtain ⟨d, cs, rfl, same, found⟩ := (matches_one_iff (by simp)).mp matched
          obtain rfl := eq_of_beq same
          exact .itself plain (later found)

/-- A part of a text that a character of a pattern stands for, where no set is opened. -/
def Covers (c : Char) (part : List Char) : Prop :=
  c = '*' ∨ c = '?' ∧ part.length = 1 ∨ c ≠ '*' ∧ c ≠ '?' ∧ part = [c]

theorem stands_for_iff_cut {pattern text : List Char} (plain : '[' ∉ pattern) :
    StandsFor pattern text ↔ ∃ parts, text = parts.flatten ∧ List.Forall₂ Covers pattern parts := by
  constructor
  · intro stands
    induction stands with
    | nothing => exact ⟨[], rfl, .nil⟩
    | anyText taken later ih =>
      obtain ⟨parts, rfl, cut⟩ := ih (fun among => plain (.tail _ among))
      exact ⟨taken :: parts, rfl, .cons (.inl rfl) cut⟩
    | anyCharacter c later ih =>
      obtain ⟨parts, rfl, cut⟩ := ih (fun among => plain (.tail _ among))
      exact ⟨[c] :: parts, rfl, .cons (.inr (.inl ⟨rfl, rfl⟩)) cut⟩
    | among encloses holds later ih => exact absurd List.mem_cons_self plain
    | unclosed lone later ih => exact absurd List.mem_cons_self plain
    | @itself c rest cs own later ih =>
      obtain ⟨parts, rfl, cut⟩ := ih (fun among => plain (.tail _ among))
      exact ⟨[c] :: parts, rfl, .cons (.inr (.inr ⟨own.1, own.2.1, rfl⟩)) cut⟩
  · rintro ⟨parts, rfl, cut⟩
    induction cut with
    | nil => exact .nothing
    | @cons c part rest parts covers cut ih =>
      have later := ih (fun among => plain (.tail _ among))
      have unopened : c ≠ '[' := fun opens => plain (opens ▸ List.mem_cons_self)
      rcases covers with rfl | ⟨rfl, one⟩ | ⟨noRun, noAny, rfl⟩
      · exact .anyText part later
      · obtain ⟨d, rfl⟩ := List.length_eq_one_iff.mp one
        exact .anyCharacter d later
      · exact .itself ⟨noRun, noAny, unopened⟩ later

theorem stands_for_itself {pattern text : List Char}
    (plain : ∀ c ∈ pattern, c ≠ '*' ∧ c ≠ '?' ∧ c ≠ '[') : StandsFor pattern text ↔ text = pattern := by
  constructor
  · intro stands
    induction stands with
    | nothing => rfl
    | itself own later ih => rw [ih (List.forall_mem_cons.mp plain).2]
    | _ => simp at plain
  · rintro rfl
    induction text with
    | nil => exact .nothing
    | cons c rest ih =>
      obtain ⟨own, others⟩ := List.forall_mem_cons.mp plain
      exact .itself own (ih others)

end Glob

theorem glob_matches_iff (pattern text : String) :
    globMatches pattern text = true ↔ Glob.StandsFor pattern.toList text.toList :=
  Glob.stands_for_iff.symm

theorem is_glob_eq_false {pattern : String} (exact : isGlob pattern = false) :
    ∀ c ∈ pattern.toList, c ≠ '*' ∧ c ≠ '?' ∧ c ≠ '[' := by
  intro c member
  have plain := List.any_eq_false.mp exact c member
  simpa only [Bool.or_eq_true, beq_iff_eq, not_or, and_assoc] using plain

theorem accepts_eq_any (patterns : List String) (id : String) :
    (IdFilter.ofPatterns patterns).accepts id = patterns.any fun p => globMatches p id := by
  rw [Bool.eq_iff_iff, List.any_eq_true]
  simp only [IdFilter.accepts, IdFilter.ofPatterns, Bool.or_eq_true, List.contains_iff_mem,
    List.any_map, List.any_eq_true, List.mem_filter, Bool.not_eq_true', Function.comp_apply]
  constructor
  · rintro (⟨member, exact⟩ | ⟨p, ⟨member, _⟩, found⟩)
    · refine ⟨id, member, (glob_matches_iff id id).mpr ?_⟩
      exact (Glob.stands_for_itself (is_glob_eq_false exact)).mpr rfl
    · exact ⟨p, member, found⟩
  · rintro ⟨p, member, found⟩
    cases glob : isGlob p with
    | true => exact .inr ⟨p, ⟨member, glob⟩, found⟩
    | false =>
      have same := (Glob.stands_for_itself (is_glob_eq_false glob)).mp ((glob_matches_iff p id).mp found)
      obtain rfl := String.toList_inj.mp same
      exact .inl ⟨member, glob⟩

theorem accepts_iff (patterns : List String) (id : String) :
    (IdFilter.ofPatterns patterns).accepts id = true ↔
      ∃ p ∈ patterns, Glob.StandsFor p.toList id.toList := by
  simp only [accepts_eq_any, List.any_eq_true, glob_matches_iff]

end LineLint
