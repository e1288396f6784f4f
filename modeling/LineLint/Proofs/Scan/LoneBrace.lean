import LineLint.Proofs.Masking.LoneBrace
import LineLint.Proofs.Masking.LostString
import LineLint.Proofs.Scan.Concatenation

/- What stands around a brace that is reported for standing alone. -/
namespace LineLint
open LineLint.Text

namespace Pattern

theorem line_rest_shown {cs : List Char} (rest : isLineRest (cs.dropWhile isBlank) = true) :
    LineRest cs := by
  rw [← List.takeWhile_append_dropWhile (p := isBlank) (l := cs)]
  apply (line_rest_append (List.all_eq_true.mp List.all_takeWhile)).mpr
  unfold isLineRest at rest
  split at rest
  · rename_i none
    rw [none]
    exact .nothing
  · rename_i text begins
    rw [begins]
    exact .comment text
  · cases rest

theorem lone_brace_shown {cs : List Char} {found : Found} (hit : findLoneBrace cs = some found) :
    ∃ front rest, cs = front ++ '{' :: rest ∧ Blank front ∧ LineRest rest ∧
      found.column = front.length + 1 := by
  unfold findLoneBrace at hit
  split at hit
  · rename_i front rest spanned
    obtain ⟨rfl, follows⟩ := Prod.mk.inj spanned
    split at hit
    · rename_i ends
      cases hit
      refine ⟨cs.takeWhile isBlank, rest, ?_, List.all_eq_true.mp List.all_takeWhile,
        line_rest_shown ends, rfl⟩
      rw [← follows, List.takeWhile_append_dropWhile]
    · cases hit
  · cases hit

end Pattern

namespace Masker

theorem trace_at {m : Masker} {raws : List (List Char)} {steps : List (List Char × Masker)}
    (trace : m.trace raws = .ok steps) {i : Nat} {raw : List Char} (place : raws[i]? = some raw) :
    ∃ code next, steps[i]? = some (code, next) ∧ m.trace (raws.take i) = .ok (steps.take i) ∧
      (m.left (steps.take i)).mask raw = .ok (code, next) := by
  induction raws generalizing m steps i with
  | nil => cases place
  | cons first rest ih =>
    obtain ⟨code, next, more, mask, after, rfl⟩ := trace_cons_ok trace
    cases i with
    | zero =>
      cases place
      exact ⟨code, next, rfl, rfl, mask⟩
    | succ i =>
      obtain ⟨code', next', shown, before, masked⟩ := ih after place
      exact ⟨code', next', shown, trace_cons mask before, masked⟩

theorem left_reached {m : Masker} {raws : List (List Char)} {steps : List (List Char × Masker)}
    (reached : m.Reached) (trace : m.trace raws = .ok steps) : (m.left steps).Reached := by
  induction raws generalizing m steps with
  | nil =>
    cases trace
    exact reached
  | cons raw rest ih =>
    obtain ⟨code, next, more, mask, after, rfl⟩ := trace_cons_ok trace
    show (next.left more).Reached
    exact ih (.mask reached mask) after

theorem literal_between_lines {m : Masker} (reached : m.Reached)
    (literal : ∃ c ∈ m.stack, IsLiteral c) : Construct.textBlock ∈ m.stack := by
  obtain ⟨c, member, kind⟩ := literal
  have noString : c ≠ .string := by
    rintro rfl
    exact reached_free reached member
  have textBlock : c = .textBlock := literal_without_string kind noString
  rwa [← textBlock]

end Masker

def openBefore (text : List Char) (number : Nat) : Except MaskFault (List Construct) :=
  (Masker.start.trace ((splitLines text).take (number - 1))).map fun steps =>
    (Masker.start.left steps).stack

theorem source_line_begins {text : List Char} {line : Line} (member : line ∈ sourceLines text) :
    ∃ m last, Masker.Reached m ∧ openBefore text line.number = .ok m.stack ∧
      Masker.Runs m line.text line.code last := by
  obtain ⟨steps, trace, eq⟩ := source_lines_traced text
  rw [eq] at member
  obtain ⟨i, number, raw, code⟩ := numbered_get member
  obtain ⟨shown, next, place, before, masked⟩ := Masker.trace_at trace raw
  obtain ⟨last, runs, _⟩ := Masker.mask_eq_ok masked
  have same : shown = line.code := by
    rw [List.getElem?_map, place] at code
    exact Option.some.inj code
  have index : line.number - 1 = i := by omega
  refine ⟨_, last, Masker.left_reached .fresh before, ?_, same ▸ runs⟩
  rw [openBefore, index, before]
  rfl

/-- A brace of a line, with what stands in front of it and behind it, that looks alone. On its line it
    is alone, unless a text block is open where the line begins: then text of that block can stand in
    front of the brace, up to where an interpolation opens, and behind it, from where one closes. -/
structure LooksAlone (opened : List Construct) (before after : List Char) : Prop where
  front : Blank before ∨ .textBlock ∈ opened ∧ EndsInOpening before
  rest : LineRest after ∨ .textBlock ∈ opened ∧ BeginsInClosing after

theorem lone_brace_line {line : Line} {m last : Masker} (reached : m.Reached)
    (runs : Masker.Runs m line.text line.code last) {hit : Hit}
    (matched : Rule.braceSameLine.matcher line = .ok (some hit)) :
    ∃ before after, line.text = before ++ '{' :: after ∧ hit.column = some (before.length + 1) ∧
      LooksAlone m.stack before after := by
  obtain ⟨found, search, rfl⟩ := Option.map_eq_some_iff.mp (Except.ok.inj matched)
  obtain ⟨front, rest, shown, blank, follows, column⟩ := Pattern.lone_brace_shown search
  have sound := Masker.reached_sound reached
  have whole : line.code = front ++ '{' :: rest := shown
  rw [whole] at runs
  obtain ⟨before, after, inner, eq, length, leads, code, kept, later, literals⟩ :=
    Masker.runs_before_brace runs sound blank
  refine ⟨before, after, eq, ?_, ?_, ?_⟩
  · rw [length, ← column]
    rfl
  · rcases leads with ⟨_, blank⟩ | ⟨literal, opening⟩
    · exact .inl blank
    · exact .inr ⟨Masker.literal_between_lines reached literal, opening⟩
  · rcases Masker.runs_rest later code kept follows with rest | ⟨⟨c, member, kind⟩, closing⟩
    · exact .inl rest
    · have outside : ∃ c ∈ m.stack, Masker.IsLiteral c := ⟨c, literals c member kind, kind⟩
      exact .inr ⟨Masker.literal_between_lines reached outside, closing⟩

/-- A brace that is reported for standing alone is alone on its line, but for the text of a text block
    around an interpolation. -/
theorem lone_brace_surroundings {rules : List Rule}
    (own : ∀ rule ∈ rules, rule.id = Rule.braceSameLine.id → rule = Rule.braceSameLine)
    {source : Source} {text : List Char} (readable : source.text = .ok text) :
    ∃ result, scan rules source = .ok result ∧
      ∀ v ∈ result.violations, v.ruleId = Rule.braceSameLine.id →
        ∃ before after opened, 1 ≤ v.line ∧
          (splitLines text)[v.line - 1]? = some (before ++ '{' :: after) ∧
          v.column = some (before.length + 1) ∧ openBefore text v.line = .ok opened ∧
          LooksAlone opened before after := by
  refine ⟨_, scan_readable rules readable, fun v member isBrace => ?_⟩
  obtain ⟨line, ofSource, rule, among, hit, message, found, rfl⟩ := scan_lines_violation member
  obtain rfl := own rule among isBrace
  obtain ⟨first, raw, _⟩ := source_line ofSource
  obtain ⟨m, last, reached, opened, runs⟩ := source_line_begins ofSource
  obtain ⟨before, after, eq, column, alone⟩ := lone_brace_line reached runs (check_hit found).1
  rw [eq] at raw
  exact ⟨before, after, m.stack, first, raw, column, opened, alone⟩

theorem builtin_own_brace :
    ∀ rule ∈ Rule.builtin, rule.id = Rule.braceSameLine.id → rule = Rule.braceSameLine := by
  intro rule member same
  simp only [Rule.builtin, List.mem_cons, List.not_mem_nil, or_false] at member
  rcases member with rfl | rfl | rfl | rfl | rfl | rfl | rfl | rfl | rfl <;>
    first | rfl | exact absurd same (by decide)

def bracesAlone : List Char := "if a\n\t\x7b // open\n\"\"\"\nhello \\(\x7b\n".toList

theorem braces_alone_surroundings :
    (Source.points (bracesAlone.map Char.toNat)).text = .ok bracesAlone ∧
    (scanText Rule.builtin bracesAlone).violations.map (fun v => (v.ruleId, v.line, v.column)) =
      [("brace-same-line", 2, some 2), ("brace-same-line", 4, some 9)] ∧
    openBefore bracesAlone 2 = .ok [] ∧
    ∀ v ∈ (scanText Rule.builtin bracesAlone).violations, v.ruleId = Rule.braceSameLine.id →
      ∃ before after opened,
        (splitLines bracesAlone)[v.line - 1]? = some (before ++ '{' :: after) ∧
        v.column = some (before.length + 1) ∧ openBefore bracesAlone v.line = .ok opened ∧
        LooksAlone opened before after := by
  have readable : (Source.points (bracesAlone.map Char.toNat)).text = .ok bracesAlone := by
    decide +kernel
  refine ⟨readable, by decide +kernel, by decide +kernel, fun v member isBrace => ?_⟩
  obtain ⟨result, scanned, around⟩ := lone_brace_surroundings builtin_own_brace readable
  cases scanned.symm.trans (scan_readable _ readable)
  obtain ⟨before, after, opened, _, surroundings⟩ := around v member isBrace
  exact ⟨before, after, opened, surroundings⟩

def wordBeforeBrace : List Char := "\"\"\"\nhello \\(\x7b\n".toList

theorem word_before_lone_brace :
    (scanText [Rule.braceSameLine] wordBeforeBrace).violations.map (fun v => (v.line, v.column)) =
      [(2, some 9)] ∧
    ∃ before after, (splitLines wordBeforeBrace)[1]? = some (before ++ '{' :: after) ∧
      before.length + 1 = 9 ∧ ¬ Blank before := by
  refine ⟨by decide +kernel, "hello \\(".toList, [], by decide +kernel, by decide +kernel, ?_⟩
  intro blank
  have word : isBlank 'h' = true := blank 'h' (by decide +kernel)
  cases word

end LineLint
