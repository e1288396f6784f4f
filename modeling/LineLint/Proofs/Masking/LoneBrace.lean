import LineLint.Proofs.Masking.Words
import LineLint.Proofs.Text.Runs

/- A brace that stands alone in a masked line, and what stands around it in the raw line. White space
   that is shown is white space, or it hides a text; a text is hidden in front of the brace only where
   an interpolation opens in it, and behind the brace only where that closes. -/
namespace LineLint
open LineLint.Text

inductive LineRest : List Char → Prop where
  | nothing : LineRest []
  | comment (text : List Char) : LineRest ('/' :: '/' :: text)
  | blank {c : Char} {rest : List Char} (blank : isBlank c = true) (later : LineRest rest) :
      LineRest (c :: rest)

def EndsInOpening (cs : List Char) : Prop :=
  ∃ hidden blanks, cs = hidden ++ '\\' :: '(' :: blanks ∧ Blank blanks

def BeginsInClosing (cs : List Char) : Prop :=
  ∃ blanks hidden, cs = blanks ++ ')' :: hidden ∧ Blank blanks

theorem line_rest_append {blanks rest : List Char} (blank : Blank blanks) :
    LineRest (blanks ++ rest) ↔ LineRest rest := by
  induction blanks with
  | nil => exact Iff.rfl
  | cons c blanks ih =>
    have first : isBlank c = true := blank c List.mem_cons_self
    have others : Blank blanks := fun d member => blank d (List.mem_cons_of_mem c member)
    rw [← ih others, List.cons_append]
    generalize blanks ++ rest = more
    constructor
    · intro rest
      cases rest with
      | comment => cases first
      | blank _ later => exact later
    · intro later
      exact .blank first later

theorem ends_in_opening_append {front cs : List Char} (opening : EndsInOpening cs) :
    EndsInOpening (front ++ cs) := by
  obtain ⟨hidden, blanks, rfl, blank⟩ := opening
  exact ⟨front ++ hidden, blanks, (List.append_assoc _ _ _).symm, blank⟩

theorem begins_in_closing_append {front cs : List Char} (blank : Blank front)
    (closing : BeginsInClosing cs) : BeginsInClosing (front ++ cs) := by
  obtain ⟨blanks, hidden, rfl, others⟩ := closing
  exact ⟨front ++ blanks, hidden, (List.append_assoc _ _ _).symm, blank_append.mpr ⟨blank, others⟩⟩

namespace Masker

/-- What a step does that shows nothing but white space for the characters taken: it takes white space
    in code, or hides what it takes and opens and closes nothing, or an interpolation opens in a literal,
    or closes in one. -/
inductive Blanked (m after : Masker) (taken : List Char) : Prop where
  | code (code : m.InCode) (blank : Blank taken) (same : after.stack = m.stack)
  | hidden (outside : ¬ m.InCode) (same : after.stack = m.stack)
  | opens (opening : taken = ['\\', '(']) (opened : after.stack = .interpolation :: m.stack)
      (inside : ∃ literal outer, m.stack = literal :: outer ∧ IsLiteral literal)
  | closes (closing : taken = [')']) (closed : m.stack = .interpolation :: after.stack)
      (inside : ∃ literal outer, after.stack = literal :: outer ∧ IsLiteral literal)

theorem outside_code {m : Masker} {c : Construct} {outer : List Construct}
    (inside : m.stack = c :: outer) (other : c ≠ .interpolation) : ¬ m.InCode := by
  intro code
  exact other (in_code_outside code inside)

theorem takes_shows_some {m : Masker} {raw : List Char} {s : MaskStep} (takes : m.Takes raw s) :
    s.shown ≠ [] := by
  cases takes <;> exact List.cons_ne_nil _ _

theorem takes_blanked {m : Masker} {raw : List Char} {s : MaskStep} (takes : m.Takes raw s)
    (sound : m.Sound) (first : s.shown.head?.any isBlank = true) :
    ∃ taken, raw = taken ++ s.rest ∧ taken.length = s.shown.length ∧ Blank s.shown ∧
      Blanked m s.after taken := by
  have space : isBlank ' ' = true := rfl
  cases takes with
  | lineComment => cases first
  | openComment => cases first
  | openTextBlock => cases first
  | openString => cases first
  | countParen inside counted isParen more => rcases isParen with rfl | rfl <;> cases first
  | @closeInterpolation c rest outer n counts inside counted isParen last =>
    have closing : c = ')' := by
      refine isParen.resolve_left ?_
      rintro rfl
      -- one more parenthesis cannot bring a positive count to nothing
      have positive := sound.positive n (counted ▸ List.mem_cons_self)
      change n + 1 = 0 at last
      omega
    obtain ⟨literal, around, rfl, kind, _⟩ := nested_interpolation (inside ▸ sound.nested)
    exact ⟨[c], rfl, rfl, by simp [Blank, space],
      .closes (by rw [closing]) inside ⟨literal, around, rfl, kind⟩⟩
  | @plain c rest code =>
    have blank : Blank [c] := List.forall_mem_singleton.mpr first
    exact ⟨[c], rfl, rfl, blank, .code code blank rfl⟩
  | nestComment inside =>
    exact ⟨['/', '*'], rfl, rfl, by simp [Blank, space], .hidden (outside_code inside (by decide)) rfl⟩
  | closeNested inside =>
    exact ⟨['*', '/'], rfl, rfl, by simp [Blank, space], .hidden (outside_code inside (by decide)) rfl⟩
  | closeComment => cases first
  | @commentText c rest outer inside =>
    exact ⟨[c], rfl, rfl, by simp [Blank, space], .hidden (outside_code inside (by decide)) rfl⟩
  | @openInterpolation rest literal outer inside isLiteral =>
    exact ⟨['\\', '('], rfl, rfl, by simp [Blank, space],
      .opens rfl rfl ⟨literal, outer, inside, isLiteral⟩⟩
  | @escape c rest literal outer inside isLiteral =>
    exact ⟨['\\', c], rfl, rfl, by simp [Blank, space],
      .hidden (outside_code inside (literal_closed isLiteral)) rfl⟩
  | loneBackslash inside isLiteral =>
    exact ⟨['\\'], rfl, rfl, by simp [Blank, space],
      .hidden (outside_code inside (literal_closed isLiteral)) rfl⟩
  | closeString => cases first
  | closeTextBlock => cases first
  | @literalText c rest literal outer inside isLiteral =>
    exact ⟨[c], rfl, rfl, by simp [Blank, space],
      .hidden (outside_code inside (literal_closed isLiteral)) rfl⟩

/-- A text that is cut in two, and elsewhere in front of a character: the character belongs to the first
    part, or the first part ends in front of it. -/
theorem append_cons_cut {w v a b : List Char} {c : Char} (same : w ++ c :: v = a ++ b) :
    (∃ more, a = w ++ c :: more ∧ v = more ++ b) ∨ ∃ more, w = a ++ more ∧ b = more ++ c :: v := by
  rcases List.append_eq_append_iff.mp same with ⟨more, rfl, rest⟩ | ⟨more, rfl, rfl⟩
  · rcases List.cons_eq_append_iff.mp rest with ⟨rfl, rfl⟩ | ⟨more, rfl, rfl⟩
    · exact .inr ⟨[], by simp, rfl⟩
    · exact .inl ⟨more, rfl, rfl⟩
  · exact .inr ⟨more, rfl, rfl⟩

theorem takes_brace {m : Masker} {raw : List Char} {s : MaskStep} (takes : m.Takes raw s)
    (member : '{' ∈ s.shown) : m.InCode ∧ raw = '{' :: s.rest ∧ s.shown = ['{'] ∧ s.after = m := by
  cases takes with
  | plain code =>
    obtain rfl := List.mem_singleton.mp member
    exact ⟨code, rfl, rfl, rfl⟩
  | countParen inside counted isParen more =>
    rcases isParen with rfl | rfl <;> simp at member
  | lineComment => simp [blanks] at member
  | _ => simp at member

theorem head_of_blank {cs more : List Char} (some : cs ≠ []) (blank : Blank (cs ++ more)) :
    cs.head?.any isBlank = true := by
  obtain ⟨c, rest, rfl⟩ := List.exists_cons_of_ne_nil some
  exact blank c List.mem_cons_self

/-- What can stand in front of a lone brace: white space of a line that begins in code, or whatever ends
    in the opening of an interpolation in a literal that is open already. -/
def FrontOf (m : Masker) (before : List Char) : Prop :=
  m.InCode ∧ Blank before ∨ (∃ c ∈ m.stack, IsLiteral c) ∧ EndsInOpening before

theorem in_code_congr {m m' : Masker} (same : m.stack = m'.stack) : m.InCode ↔ m'.InCode := by
  rw [InCode, InCode, same]

theorem blanked_literals {m after : Masker} {taken : List Char} (step : Blanked m after taken) :
    ∀ c ∈ after.stack, IsLiteral c → c ∈ m.stack := by
  intro c member kind
  cases step with
  | code _ _ same => exact same ▸ member
  | hidden _ same => exact same ▸ member
  | opens _ opened =>
    rw [opened] at member
    exact (List.mem_cons.mp member).resolve_left (literal_closed kind)
  | closes _ closed =>
    rw [closed]
    exact List.mem_cons_of_mem _ member

theorem blanked_front {m after : Masker} {taken before : List Char} (step : Blanked m after taken)
    (front : after.FrontOf before) : m.FrontOf (taken ++ before) := by
  have within : (∃ c ∈ after.stack, IsLiteral c) → ∃ c ∈ m.stack, IsLiteral c := by
    rintro ⟨c, member, kind⟩
    exact ⟨c, blanked_literals step c member kind, kind⟩
  rcases front with ⟨code, blank⟩ | ⟨literal, opening⟩
  · cases step with
    | code code blanks => exact .inl ⟨code, blank_append.mpr ⟨blanks, blank⟩⟩
    | hidden outside same => exact absurd ((in_code_congr same).mp code) outside
    | opens opening _ inside =>
      obtain ⟨literal, outer, inside, kind⟩ := inside
      refine .inr ⟨⟨literal, inside ▸ List.mem_cons_self, kind⟩, [], before, ?_, blank⟩
      rw [opening]
      rfl
    | closes _ _ inside =>
      obtain ⟨literal, outer, inside, kind⟩ := inside
      exact absurd code (outside_code inside (literal_closed kind))
  · exact .inr ⟨within literal, ends_in_opening_append opening⟩

/-- A brace that is shown behind nothing but white space is a brace of the line, and stands in code.
    Every literal around it was open where the line began. -/
theorem runs_before_brace {m last : Masker} {raw front rest : List Char}
    (runs : Runs m raw (front ++ '{' :: rest) last) (sound : m.Sound) (blank : Blank front) :
    ∃ before after inner, raw = before ++ '{' :: after ∧ before.length = front.length ∧
      m.FrontOf before ∧ inner.InCode ∧ inner.Sound ∧ Runs inner after rest last ∧
      ∀ c ∈ inner.stack, IsLiteral c → c ∈ m.stack := by
  generalize whole : front ++ '{' :: rest = shown at runs
  induction runs generalizing front with
  | done => exact absurd whole (List.append_ne_nil_of_right_ne_nil _ (List.cons_ne_nil _ _))
  | @step m last raw shown s takes later ih =>
    -- Either the step shows the brace itself, or it belongs to what stands in front of the brace.
    rcases append_cons_cut whole with ⟨more, shows, rfl⟩ | ⟨more, rfl, rfl⟩
    · have member : '{' ∈ s.shown := by simp [shows]
      obtain ⟨code, eq, alone, same⟩ := takes_brace takes member
      rw [alone] at shows
      obtain ⟨rfl, rfl⟩ : front = [] ∧ more = [] := by
        cases front <;> simp_all
      have nothing : m.FrontOf [] := .inl ⟨code, List.forall_mem_nil _⟩
      refine ⟨[], s.rest, s.after, eq, rfl, nothing, same ▸ code, takes_sound takes sound, later, ?_⟩
      intro c member _
      rwa [same] at member
    · obtain ⟨taken, rfl, length, _, step⟩ :=
        takes_blanked takes sound (head_of_blank (takes_shows_some takes) blank)
      obtain ⟨before, after, inner, eq, places, front, code, kept, runs, literals⟩ :=
        ih (takes_sound takes sound) (blank_append.mp blank).2 rfl
      refine ⟨taken ++ before, after, inner, ?_, ?_, blanked_front step front, code, kept, runs, ?_⟩
      · rw [eq, List.append_assoc]
      · rw [List.length_append, List.length_append, length, places]
      · intro c member kind
        exact blanked_literals step c (literals c member kind) kind

/-- Where a run in code shows no more than a line comment, there is no more than one, or the
    interpolation closes that the run began in. -/
theorem runs_rest {m last : Masker} {raw shown : List Char} (runs : Runs m raw shown last)
    (code : m.InCode) (sound : m.Sound) (rest : LineRest shown) :
    LineRest raw ∨ (∃ c ∈ m.stack, IsLiteral c) ∧ BeginsInClosing raw := by
  induction runs with
  | done => exact .inl .nothing
  | @step m last raw shown s takes later ih =>
    by_cases first : s.shown.head?.any isBlank = true
    · obtain ⟨taken, rfl, _, blank, step⟩ := takes_blanked takes sound first
      cases step with
      | code _ blanks same =>
        rw [line_rest_append blank] at rest
        rw [line_rest_append blanks, ← same]
        rcases ih ((in_code_congr same).mpr code) (takes_sound takes sound) rest with
          later | ⟨literal, closing⟩
        · exact .inl later
        · exact .inr ⟨literal, begins_in_closing_append blanks closing⟩
      | hidden outside => exact absurd code outside
      | opens _ _ inside =>
        obtain ⟨literal, outer, inside, kind⟩ := inside
        exact absurd code (outside_code inside (literal_closed kind))
      | closes closing closed inside =>
        obtain ⟨literal, outer, inside, kind⟩ := inside
        rw [closed, inside, closing]
        exact .inr ⟨⟨literal, by simp, kind⟩, [], s.rest, rfl, List.forall_mem_nil _⟩
    · have veiled := runs_veil (.step takes later)
      generalize whole : s.shown ++ shown = all at rest veiled
      cases rest with
      | nothing => exact absurd (List.append_eq_nil_iff.mp whole).1 (takes_shows_some takes)
      | comment text =>
        have begins : ['/', '/'] <+: raw := veiled_begins veiled (by decide) (List.prefix_append _ text)
        obtain ⟨more, rfl⟩ := begins
        exact .inl (.comment more)
      | blank blank =>
        obtain ⟨c, cs, eq⟩ := List.exists_cons_of_ne_nil (takes_shows_some takes)
        rw [eq] at whole first
        cases whole
        exact absurd blank first

end Masker

end LineLint
