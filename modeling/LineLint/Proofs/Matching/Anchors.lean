import Mathlib.Data.List.Nodup
import LineLint.Rule.Builtin
import LineLint.Proofs.Matching.TypeSearches

/- The patterns that rules use, each with its expression, and the column that a hit of one of them has.
   A part that an expression always captures is never missing in a match, so that only an expression
   that lets its part `at` be left out can report no column of the text. -/
namespace LineLint
open LineLint.Text
open LineLint.Expression (char)

/-- A pattern that rules may use by name, and the regular expression that it is made from. -/
structure NamedPattern where
  name : String
  pattern : Pattern
  expression : Expression
  used : Rule.matcher? name = some pattern.matcher
  follows : pattern.Follows expression

namespace NamedPattern
open LineLint.Pattern

def optat : NamedPattern :=
  ⟨"optat", optionalPart, optionalPartExpression, rfl, optional_part_follows⟩

def all : List NamedPattern :=
  [⟨"trailing-whitespace", trailingBlanks, trailingExpression, rfl, trailing_blanks_follows⟩,
   ⟨"no-semicolons", character .code ';', char ';', rfl, character_follows .code ';'⟩,
   ⟨"brace-same-line", loneBrace, loneBraceExpression, rfl, lone_brace_follows⟩,
   ⟨"colon-spacing", misplacedColon, colonExpression, rfl, misplaced_colon_follows⟩,
   ⟨"type-name-capitalized", smallTypeName, smallTypeExpression, rfl, small_type_follows⟩,
   ⟨"no-k-prefix", hungarian, hungarianExpression, rfl, hungarian_follows⟩,
   ⟨"no-force-cast", word "as!", wordExpression "as!", rfl, word_follows rfl rfl⟩,
   ⟨"no-force-try", word "try!", wordExpression "try!", rfl, word_follows rfl rfl⟩,
   ⟨"semi", character .code ';', char ';', rfl, character_follows .code ';'⟩,
   ⟨"x", character .code 'x', char 'x', rfl, character_follows .code 'x'⟩,
   ⟨"tab", character .text '\t', char '\t', rfl, character_follows .text '\t'⟩,
   ⟨"long", long, longExpression, rfl, long_follows⟩,
   ⟨"todo", todo, inAnyCase ['T', 'O', 'D', 'O'], rfl, todo_follows⟩,
   ⟨"let", bound, boundExpression, rfl, bound_follows⟩,
   ⟨"opt", optionalName, optionalNameExpression, rfl, optional_name_follows⟩,
   optat,
   ⟨"pair", pair, pairExpression, rfl, pair_follows⟩]

end NamedPattern

/-- The names of the matchers that are made from no pattern. -/
def plainMatchers : List String := ["no-space-indent", "whole", "line", "never", "boom"]

theorem lookup_listed {α : Type} {entries : List (String × α)} {name : String} {a : α}
    (found : entries.lookup name = some a) : name ∈ entries.map Prod.fst := by
  obtain ⟨entry, listed, same⟩ :=
    List.lookup_isSome_iff.mp (Option.isSome_iff_exists.mpr ⟨a, found⟩)
  exact List.mem_map.mpr ⟨entry, listed, (beq_iff_eq.mp same).symm⟩

theorem matcher_names {name : String} {matcher : Matcher} (used : Rule.matcher? name = some matcher) :
    name ∈ NamedPattern.all.map NamedPattern.name ++ plainMatchers := by
  have listed : ∀ known ∈ Rule.builtinIds ++
      (Matcher.patterns.map Prod.fst ++ Matcher.others.map Prod.fst),
      known ∈ NamedPattern.all.map NamedPattern.name ++ plainMatchers := by decide +kernel
  refine listed name ?_
  rcases Option.or_eq_some_iff.mp used with builtin | ⟨_, named⟩
  · obtain ⟨rule, found, _⟩ := Option.map_eq_some_iff.mp builtin
    rw [Rule.builtin?] at found
    have same : rule.id = name := by simpa using List.find?_some found
    rw [← same]
    exact List.mem_append_left _ (List.mem_map_of_mem (List.mem_of_find?_eq_some found))
  · refine List.mem_append_right _ (List.mem_append.mpr ?_)
    rcases Option.or_eq_some_iff.mp named with pattern | ⟨_, other⟩
    · obtain ⟨p, found, _⟩ := Option.map_eq_some_iff.mp pattern
      exact .inl (lookup_listed found)
    · exact .inr (lookup_listed other)

theorem at_always : ∀ p ∈ NamedPattern.all, p.name ≠ "optat" →
    "at" ∈ p.expression.names → p.expression.always "at" = true := by
  decide +kernel

theorem names_distinct : (NamedPattern.all.map NamedPattern.name).Nodup := by decide +kernel

theorem named_optat {p : NamedPattern} (listed : p ∈ NamedPattern.all) (named : p.name = "optat") :
    p = NamedPattern.optat := by
  have there : NamedPattern.optat ∈ NamedPattern.all := by simp [NamedPattern.all]
  exact List.inj_on_of_nodup_map names_distinct listed there named

theorem optional_part_left_out {cs : List Char} {m : Match}
    (matched : Pattern.optionalPartExpression.search cs = some m) :
    m.part? "at" = none ↔ (cs.drop (m.start + 1)).head? ≠ some 'y' := by
  have found := Pattern.optional_part_follows cs
  rw [matched] at found
  obtain ⟨⟨n, present⟩, first, same⟩ := Option.map_eq_some_iff.mp found
  obtain ⟨front, rest, rfl, rfl, accepted, _⟩ := leftmost_eq_some_iff.mp first
  have start : front.length = m.start := congrArg Found.start same
  have anchor : Anchor.part (if present then some (front.length + 1) else none) =
      Anchor.part ((m.part? "at").map Capture.start) := congrArg Found.anchor same
  rw [Pattern.part_after_x_eq] at accepted
  obtain ⟨after, dropped, taken⟩ := Option.map_eq_some_iff.mp accepted
  have behind : (front ++ rest).drop (m.start + 1) = after := by
    rw [Expression.drop_char_iff.mp dropped, ← start]
    simp
  have missed : m.part? "at" = none ↔ present = false := by
    rw [← Option.map_eq_none_iff (f := Capture.start), ← Anchor.part.inj anchor]
    cases present <;> simp
  rw [missed, behind, ← taken]
  cases after with
  | nil => simp [Expression.dropOne]
  | cons c after =>
    by_cases same : c = 'y'
    · simp [Expression.dropOne, same]
    · simp [Expression.dropOne, same]

/-- A column that a pattern's hit reports of a match. It is one after the part `at` of the match, or one
    after its beginning if no part is of that name; only where the part that may be left out is left out,
    it is 0 and no place in the text. -/
structure NamedPattern.PointsAt (p : NamedPattern) (cs : List Char) (m : Match) (column : Nat) :
    Prop where
  fits : p.expression.Fits cs m
  part : ∀ c, m.part? "at" = some c → c.StandsIn cs ∧ column = c.start + 1
  start : "at" ∉ p.expression.names → column = m.start + 1
  outside : column = 0 ↔ p.name = "optat" ∧ (cs.drop (m.start + 1)).head? ≠ some 'y'
  within : column ≤ cs.length + 1

theorem match_column {p : NamedPattern} (listed : p ∈ NamedPattern.all) {cs : List Char} {m : Match}
    (matched : p.expression.search cs = some m) :
    p.PointsAt cs m (p.expression.found m).column := by
  obtain ⟨part, start, outside, within⟩ := Expression.found_column matched
  have fits := Expression.search_fits matched
  refine ⟨fits, fun c taken => ⟨(Expression.part_stands fits taken).2, (part c taken).2⟩, start, ?_,
    within⟩
  rw [outside]
  by_cases named : p.name = "optat"
  · obtain rfl := named_optat listed named
    have declared : "at" ∈ NamedPattern.optat.expression.names := by decide
    rw [optional_part_left_out matched]
    exact and_congr_left fun _ => iff_of_true declared rfl
  · refine iff_of_false ?_ fun out => named out.1
    rintro ⟨declared, missed⟩
    obtain ⟨c, taken⟩ := fits.always "at" (at_always p listed named declared)
    rw [missed] at taken
    cases taken

/-- Every matcher that is made from a pattern hits a line exactly if its expression matches there, and
    then reports a column of the text: one after where the part `at` begins, or one after where the match
    begins if the expression has no such part. The one exception is a part `at` that may be left out and
    is: the column is then 0. -/
theorem pattern_columns {name : String} {matcher : Matcher}
    (used : Rule.matcher? name = some matcher) (made : name ∉ plainMatchers) :
    ∃ p ∈ NamedPattern.all, p.name = name ∧ ∀ line, let cs := p.pattern.subject.of line
      (p.expression.search cs = none → matcher line = .ok none) ∧
      ∀ m, p.expression.search cs = some m →
        ∃ hit column, matcher line = .ok (some hit) ∧ hit.column = some column ∧
          p.PointsAt cs m column := by
  obtain ⟨p, listed, named⟩ :=
    List.mem_map.mp ((List.mem_append.mp (matcher_names used)).resolve_right made)
  have same : matcher = p.pattern.matcher := by
    rw [← named, p.used] at used
    exact (Option.some.inj used).symm
  refine ⟨p, listed, named, fun line => ⟨fun missed => ?_, fun m matched => ?_⟩⟩
  · rw [same, Pattern.matcher, p.follows, missed]
    rfl
  · refine ⟨(p.expression.found m).hit, (p.expression.found m).column, ?_, rfl,
      match_column listed matched⟩
    rw [same, Pattern.matcher, p.follows, matched]
    rfl

theorem optional_part_columns :
    let matcher := Pattern.optionalPart.matcher
    Rule.matcher? "optat" = some matcher ∧ "optat" ∉ plainMatchers ∧
      ∃ p ∈ NamedPattern.all, p.name = "optat" ∧ ∀ line, let cs := p.pattern.subject.of line
        (p.expression.search cs = none → matcher line = .ok none) ∧
        ∀ m, p.expression.search cs = some m →
          ∃ hit column, matcher line = .ok (some hit) ∧ hit.column = some column ∧
            p.PointsAt cs m column :=
  ⟨rfl, by decide, pattern_columns rfl (by decide)⟩

/-- The letter `x` alone is a match at the very beginning, and is reported in column 0. -/
theorem left_out_part_in_column_zero :
    let line : Line := ⟨1, ['x'], ['x']⟩
    Rule.matcher? "optat" = some Pattern.optionalPart.matcher ∧ "optat" ∉ plainMatchers ∧
      Pattern.optionalPartExpression.search line.code = some ⟨0, []⟩ ∧
      Pattern.optionalPart.matcher line = .ok (some ⟨some 0, []⟩) ∧
      ¬ ∀ hit column, Pattern.optionalPart.matcher line = .ok (some hit) →
        hit.column = some column → 1 ≤ column := by
  refine ⟨rfl, by decide, rfl, rfl, fun within => ?_⟩
  exact absurd (within ⟨some 0, []⟩ 0 rfl rfl) (by decide)

end LineLint
