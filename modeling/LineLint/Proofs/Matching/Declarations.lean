import LineLint.Proofs.Matching.Leftmost
import LineLint.Proofs.Text.Runs
import LineLint.Rule.Builtin

/- Bindings and forced operators in a line, and that the rules about them report the leftmost one. A
   binding is said without regard to how it is searched for: any cut of the line that fits will do. -/
namespace LineLint
open LineLint.Text

/-- A word in a text, with no word character in front of it. -/
structure WordIn (sought cs : List Char) where
  front : List Char
  rest : List Char
  whole : front ++ (sought ++ rest) = cs
  separate : front.getLast?.any isWord = false

theorem word_recognised (sought cs : List Char) :
    Recognises (dropWordAt sought) cs (fun w : WordIn sought cs => w.front)
      (fun w => sought ++ w.rest) fun w => w.rest where
  whole w := w.whole
  accepted w := drop_word_at_eq_some.mpr ⟨w.separate, rfl⟩
  listed before after rest whole accepted := by
    obtain ⟨separate, rfl⟩ := drop_word_at_eq_some.mp accepted
    exact ⟨⟨before, rest, whole, separate⟩, rfl⟩

theorem word_reports_leftmost (sought : String) (line : Line) :
    (Pattern.word sought).matcher.ReportsLeftmost line
      (fun w : WordIn sought.toList line.code => w.front.length)
      fun w => ⟨some (w.front.length + 1), []⟩ := by
  have recognised := word_recognised sought.toList line.code
  have reports := pattern_reports_leftmost (p := Pattern.word sought) (fun _ => rfl) recognised
  exact reports

def IsBinder (cs : List Char) : Prop := cs = ['l', 'e', 't'] ∨ cs = ['v', 'a', 'r']

/-- A binder in a text and the name it binds: `let` or `var`, with no word character in front of it,
    some white space, and a whole word. -/
structure Binding (cs : List Char) where
  front : List Char
  binder : List Char
  gap : List Char
  name : List Char
  rest : List Char
  whole : front ++ (binder ++ (gap ++ (name ++ rest))) = cs
  separate : front.getLast?.any isWord = false
  binds : IsBinder binder
  spaced : SomeOf isBlank gap
  named : IsRun isWord name rest

namespace Binding
variable {cs : List Char}

def lead (b : Binding cs) : List Char := b.front ++ (b.binder ++ b.gap)

end Binding

namespace Pattern

theorem drop_binder_iff {before : Option Char} {cs rest : List Char} :
    dropBinder before cs = some rest ↔
      before.any isWord = false ∧
        ∃ binder gap, cs = binder ++ (gap ++ rest) ∧ IsBinder binder ∧ IsRun isBlank gap rest := by
  simp only [dropBinder, Option.bind_eq_bind, Option.bind_eq_some_iff, Option.pure_def]
  constructor
  · rintro ⟨tail, found, ⟨gap, rest'⟩, taken, eq⟩
    cases eq
    obtain ⟨rfl, run⟩ := take_some_iff.mp taken
    rcases Option.or_eq_some_iff.mp found with isLet | ⟨_, isVar⟩
    · obtain ⟨separate, rfl⟩ := drop_word_at_eq_some.mp isLet
      exact ⟨separate, _, gap, rfl, .inl rfl, run⟩
    · obtain ⟨separate, rfl⟩ := drop_word_at_eq_some.mp isVar
      exact ⟨separate, _, gap, rfl, .inr rfl, run⟩
  · rintro ⟨separate, binder, gap, rfl, binds, run⟩
    refine ⟨gap ++ rest, ?_, (gap, rest), take_some_iff.mpr ⟨rfl, run⟩, rfl⟩
    rcases binds with rfl | rfl
    · rw [drop_word_at_eq_some.mpr ⟨separate, rfl⟩, Option.some_or]
    -- `var` is looked for only where there is no `let`.
    · have other : dropWordAt ['l', 'e', 't'] before (['v', 'a', 'r'] ++ (gap ++ rest)) = none := by
        simp [dropWordAt, dropWord]
      rw [other, Option.none_or, drop_word_at_eq_some.mpr ⟨separate, rfl⟩]

end Pattern

theorem binding_drops {cs : List Char} (b : Binding cs) :
    Pattern.dropBinder b.front.getLast? (b.binder ++ (b.gap ++ (b.name ++ b.rest))) =
      some (b.name ++ b.rest) := by
  refine Pattern.drop_binder_iff.mpr ⟨b.separate, b.binder, b.gap, rfl, b.binds, ?_⟩
  exact ⟨b.spaced, word_stops_blanks b.named.toSomeOf b.rest⟩

theorem binding_exists {cs front after name rest : List Char} (whole : front ++ after = cs)
    (dropped : Pattern.dropBinder front.getLast? after = some (name ++ rest))
    (named : IsRun isWord name rest) :
    ∃ b : Binding cs, b.front = front ∧ b.name = name ∧ b.rest = rest := by
  obtain ⟨separate, binder, gap, rfl, binds, run⟩ := Pattern.drop_binder_iff.mp dropped
  exact ⟨⟨front, binder, gap, name, rest, whole, separate, binds, run.toSomeOf, named⟩, rfl, rfl, rfl⟩

/-- A binding of a name that begins with a `k` and an ASCII capital. -/
structure HungarianName (cs : List Char) extends Binding cs where
  initials : ∃ capital more, name = 'k' :: capital :: more ∧ isAsciiUpper capital = true

theorem hungarian_iff {name : List Char} :
    Pattern.isHungarian name = true ↔
      ∃ capital more, name = 'k' :: capital :: more ∧ isAsciiUpper capital = true := by
  constructor
  · intro prefixed
    unfold Pattern.isHungarian at prefixed
    split at prefixed
    · exact ⟨_, _, rfl, prefixed⟩
    · cases prefixed
  · rintro ⟨capital, more, rfl, upper⟩
    exact upper

theorem hungarian_recognised (cs : List Char) :
    Recognises Pattern.hungarianName cs (fun b : HungarianName cs => b.front)
      (fun b => b.binder ++ (b.gap ++ (b.name ++ b.rest)))
      fun b => ((b.binder ++ b.gap).length, b.name) where
  whole b := b.whole
  accepted b := by
    have name : (b.name ++ b.rest).takeWhile isWord = b.name :=
      take_while_append b.named.all b.named.stops
    simp only [Pattern.hungarianName, binding_drops, Option.bind_eq_bind, Option.bind_some, name,
      hungarian_iff.mpr b.initials, if_true, Pattern.offset, List.length_append]
    congr 2
    omega
  listed before after found whole accepted := by
    simp only [Pattern.hungarianName, Option.bind_eq_bind, Option.bind_eq_some_iff] at accepted
    obtain ⟨tail, dropped, accepted⟩ := accepted
    split at accepted
    · rename_i prefixed
      have some : tail.takeWhile isWord ≠ [] := by
        intro none
        rw [none] at prefixed
        cases prefixed
      rw [← List.takeWhile_append_dropWhile (p := isWord) (l := tail)] at dropped
      obtain ⟨b, rfl, named, _⟩ := binding_exists whole dropped (take_while_run some)
      exact ⟨⟨b, named ▸ hungarian_iff.mp prefixed⟩, rfl⟩
    · cases accepted

/-- A binding with a colon behind its name, at once or after white space. It is badly placed: white
    space stands directly in front of it, or something else directly behind it. -/
structure MisplacedColon (cs : List Char) extends Binding cs where
  blanks : List Char
  after : List Char
  colon : rest = blanks ++ ':' :: after
  allBlank : Blank blanks
  misplaced : (toBinding.lead ++ (name ++ blanks)).getLast?.any isBlank = true ∨
    after.head?.any (fun c => !isBlank c) = true

theorem last_blank_iff {lead name blanks : List Char} (some : name ≠ [])
    (word : ∀ c ∈ name, isWord c = true) (allBlank : Blank blanks) :
    (lead ++ (name ++ blanks)).getLast?.any isBlank = true ↔ blanks ≠ [] := by
  constructor
  · rintro blank rfl
    obtain ⟨c, last⟩ := Option.ne_none_iff_exists'.mp (mt List.getLast?_eq_none_iff.mp some)
    rw [List.append_nil, List.getLast?_append, last, Option.some_or, Option.any_some] at blank
    cases (word_not_blank (word c (List.mem_of_getLast? last))).symm.trans blank
  · intro present
    obtain ⟨c, last⟩ := Option.ne_none_iff_exists'.mp (mt List.getLast?_eq_none_iff.mp present)
    rw [List.getLast?_append, List.getLast?_append, last, Option.some_or, Option.some_or]
    exact allBlank c (List.mem_of_getLast? last)

theorem tight_or_late_iff {lead name blanks after : List Char} (some : name ≠ [])
    (word : ∀ c ∈ name, isWord c = true) (allBlank : Blank blanks) :
    Pattern.isTightOrLate blanks after = true ↔
      (lead ++ (name ++ blanks)).getLast?.any isBlank = true ∨
        after.head?.any (fun c => !isBlank c) = true := by
  rw [last_blank_iff some word allBlank, Pattern.isTightOrLate, Bool.or_eq_true, Bool.not_eq_true',
    List.isEmpty_eq_false_iff]

theorem blanks_before_colon {blanks after : List Char} (allBlank : Blank blanks) :
    span isBlank (blanks ++ ':' :: after) = (blanks, ':' :: after) := by
  have stops : Stops isBlank (':' :: after) := rfl
  rw [span, take_while_append allBlank stops, drop_while_append allBlank stops]

theorem colon_recognised (cs : List Char) :
    Recognises Pattern.colonAfterName cs (fun c : MisplacedColon cs => c.front)
      (fun c => c.binder ++ (c.gap ++ (c.name ++ c.rest)))
      fun c => ((c.binder ++ (c.gap ++ (c.name ++ c.blanks))).length, c.name) where
  whole c := c.whole
  accepted c := by
    have named := take_some_iff.mpr ⟨rfl, c.named⟩
    have misplaced := (tight_or_late_iff c.named.some c.named.all c.allBlank).mpr c.misplaced
    simp only [Pattern.colonAfterName, binding_drops, Option.bind_eq_bind, Option.bind_some, named]
    rw [c.colon, blanks_before_colon c.allBlank]
    simp only [misplaced, if_true, Pattern.offset, List.length_append, List.length_cons]
    congr 2
    omega
  listed before after found whole accepted := by
    simp only [Pattern.colonAfterName, Option.bind_eq_bind, Option.bind_eq_some_iff] at accepted
    obtain ⟨tail, dropped, ⟨name, rest⟩, taken, accepted⟩ := accepted
    obtain ⟨rfl, named⟩ := take_some_iff.mp taken
    split at accepted
    · rename_i blanks more spanned
      obtain ⟨rfl, more_eq⟩ := Prod.mk.inj spanned
      split at accepted
      · rename_i misplaced
        obtain ⟨b, rfl, rfl, rfl⟩ := binding_exists whole dropped named
        have colon : b.rest = b.rest.takeWhile isBlank ++ ':' :: more := by
          rw [← more_eq, List.takeWhile_append_dropWhile]
        have allBlank : Blank (b.rest.takeWhile isBlank) :=
          List.all_eq_true.mp List.all_takeWhile
        exact ⟨⟨b, _, more, colon, allBlank,
          (tight_or_late_iff named.some named.all allBlank).mp misplaced⟩, rfl⟩
      · cases accepted
    · cases accepted

/-- A line is hit for its spacing exactly if a badly placed colon follows a name that it binds; the
    column of the hit is that of the colon in the leftmost such binding, and the name is the whole
    name bound there. -/
theorem misplaced_colon_reported (line : Line) :
    Rule.colonSpacing.matcher.ReportsLeftmost line
      (fun c : MisplacedColon line.code => c.front.length)
      fun c => ⟨some ((c.lead ++ (c.name ++ c.blanks)).length + 1),
        [("name", String.ofList c.name)]⟩ := by
  have recognised := colon_recognised line.code
  have reports := pattern_reports_leftmost (p := Pattern.misplacedColon) (fun _ => rfl) recognised
  refine reports_congr reports fun c => ?_
  have place : c.front.length + (c.binder ++ (c.gap ++ (c.name ++ c.blanks))).length =
      (c.lead ++ (c.name ++ c.blanks)).length := by
    simp only [Binding.lead, List.length_append]
    omega
  rw [← place]
  rfl

/-- Names with a `k` before a capital, and the operators `as!` and `try!`, are hit exactly where they
    occur as whole words on their left, and the leftmost of them is reported. -/
theorem hungarian_names_and_forced_words_reported (line : Line) :
    Rule.noKPrefix.matcher.ReportsLeftmost line
      (fun b : HungarianName line.code => b.front.length)
      (fun b => ⟨some (b.lead.length + 1), [("name", String.ofList b.name)]⟩) ∧
    Rule.noForceCast.matcher.ReportsLeftmost line
      (fun w : WordIn ['a', 's', '!'] line.code => w.front.length)
      (fun w => ⟨some (w.front.length + 1), []⟩) ∧
    Rule.noForceTry.matcher.ReportsLeftmost line
      (fun w : WordIn ['t', 'r', 'y', '!'] line.code => w.front.length)
      (fun w => ⟨some (w.front.length + 1), []⟩) := by
  refine ⟨?_, word_reports_leftmost "as!" line, word_reports_leftmost "try!" line⟩
  have recognised := hungarian_recognised line.code
  have reports := pattern_reports_leftmost (p := Pattern.hungarian) (fun _ => rfl) recognised
  refine reports_congr reports fun b => ?_
  have place : b.front.length + (b.binder ++ b.gap).length = b.lead.length :=
    List.length_append.symm
  rw [← place]
  rfl

end LineLint
