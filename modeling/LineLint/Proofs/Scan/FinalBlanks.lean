import LineLint.Proofs.Masking.FinalBlanks
import LineLint.Proofs.Masking.WholeText
import LineLint.Proofs.Matching.FinalBlanks
import LineLint.Proofs.Scan.Selection

/- A source scanned without the spaces and tabs at the ends of its lines. The violations that are about
   these are gone, and no other is touched. -/
namespace LineLint
open LineLint.Text

/-- A violation for the spaces and tabs that a line ends with, or for an indentation with nothing
    behind it. -/
def Violation.ofFinalBlanks (raws : List (List Char)) (v : Violation) : Bool :=
  v.ruleId = Rule.trailingWhitespace.id ||
    v.ruleId = Rule.noSpaceIndent.id && (raws[v.line - 1]?).any fun raw => raw.all isSpaceOrTab

section
variable {line cut : Line} {raws : List (List Char)}

theorem violation_line {rule : Rule} {v : Violation} (found : violationOf? line rule = some v) :
    v.line = line.number := by
  obtain ⟨hit, message, _, _, rfl⟩ := violation_of_eq_some.mp found
  rfl

theorem violation_same {rule : Rule} (number : cut.number = line.number)
    (matched : rule.matcher cut = rule.matcher line) :
    violationOf? cut rule = violationOf? line rule := by
  apply Option.ext
  intro v
  rw [violation_of_eq_some, violation_of_eq_some, matched]
  have told (hit : Hit) (message : String) :
      Violation.ofHit rule cut hit message = Violation.ofHit rule line hit message := by
    rw [Violation.ofHit, Violation.ofHit, number]
  simp only [told]

theorem violation_none {rule : Rule} (missed : rule.matcher cut = .ok none) :
    violationOf? cut rule = none := by
  rw [Option.eq_none_iff_forall_ne_some]
  intro v found
  obtain ⟨hit, message, matched, _⟩ := violation_of_eq_some.mp found
  rw [missed] at matched
  cases matched

/-- What is asked of a rule so that cutting back a line takes away the violations about the spaces and
    tabs at its end, and no others. -/
def KeepsOthers (raws : List (List Char)) (line cut : Line) (rule : Rule) : Prop :=
  violationOf? cut rule = (violationOf? line rule).filter fun v => !v.ofFinalBlanks raws

theorem other_rule_kept {rule : Rule} (trailing : rule.id ≠ Rule.trailingWhitespace.id)
    (indent : rule.id ≠ Rule.noSpaceIndent.id) (number : cut.number = line.number)
    (matched : rule.matcher cut = rule.matcher line) : KeepsOthers raws line cut rule := by
  rw [KeepsOthers, violation_same number matched]
  cases found : violationOf? line rule with
  | none => rfl
  | some v => simp [Option.filter, Violation.ofFinalBlanks, violation_rule_id found, trailing, indent]

theorem trailing_kept (trims : line.Trims cut) (single : '\n' ∉ cut.text) :
    KeepsOthers raws line cut Rule.trailingWhitespace := by
  rw [KeepsOthers, violation_none (trailing_of_trimmed trims single), eq_comm,
    Option.filter_eq_none_iff]
  intro v found
  simp [Violation.ofFinalBlanks, violation_rule_id found]

theorem indent_kept (trims : line.Trims cut) (place : raws[line.number - 1]? = some line.text) :
    KeepsOthers raws line cut Rule.noSpaceIndent := by
  have told {v : Violation} (found : violationOf? line Rule.noSpaceIndent = some v) :
      v.ofFinalBlanks raws = line.text.all isSpaceOrTab := by
    have other : Rule.noSpaceIndent.id ≠ Rule.trailingWhitespace.id := by decide
    rw [Violation.ofFinalBlanks, violation_rule_id found, violation_line found, place]
    simp [other]
  by_cases empty : cut.text = []
  · have blank : line.text.all isSpaceOrTab = true := by
      rw [trims.text, trimmed_nil_iff] at empty
      exact List.all_eq_true.mpr empty
    rw [KeepsOthers, violation_none (no_indent_hit empty), eq_comm, Option.filter_eq_none_iff]
    intro v found
    rw [told found, blank]
    decide
  · have some : line.text.all isSpaceOrTab = false := by
      rw [Bool.eq_false_iff]
      intro blank
      apply empty
      rw [trims.text, trimmed_nil_iff]
      exact List.all_eq_true.mp blank
    rw [KeepsOthers, violation_same trims.number (indent_hit_of_trimmed trims empty)]
    cases found : violationOf? line Rule.noSpaceIndent with
    | none => rfl
    | some v => simp [Option.filter, told found, some]

theorem builtin_keep_others (trims : line.Trims cut)
    (place : raws[line.number - 1]? = some line.text) (text : '\n' ∉ cut.text)
    (code : '\n' ∉ cut.code) : ∀ rule ∈ Rule.builtin, KeepsOthers raws line cut rule := by
  have pattern {rule : Rule} {p : Pattern} (trailing : rule.id ≠ Rule.trailingWhitespace.id)
      (indent : rule.id ≠ Rule.noSpaceIndent.id) (made : rule.matcher = p.matcher)
      (reads : p.subject = .code) (ignores : p.IgnoresFinalBlanks) :
      KeepsOthers raws line cut rule := by
    refine other_rule_kept trailing indent trims.number ?_
    rw [made]
    exact hit_of_trimmed ignores reads trims code
  intro rule member
  simp only [Rule.builtin, List.mem_cons, List.not_mem_nil, or_false] at member
  rcases member with rfl | rfl | rfl | rfl | rfl | rfl | rfl | rfl | rfl
  · exact indent_kept trims place
  · exact trailing_kept trims text
  · exact pattern (by decide) (by decide) rfl rfl (Pattern.character_ignores rfl .code)
  · exact pattern (by decide) (by decide) rfl rfl Pattern.lone_brace_ignores
  · exact pattern (by decide) (by decide) rfl rfl Pattern.misplaced_colon_ignores
  · exact pattern (by decide) (by decide) rfl rfl Pattern.small_type_name_ignores
  · exact pattern (by decide) (by decide) rfl rfl Pattern.hungarian_ignores
  · exact pattern (by decide) (by decide) rfl rfl (Pattern.word_ignores (c := '!') rfl rfl)
  · exact pattern (by decide) (by decide) rfl rfl (Pattern.word_ignores (c := '!') rfl rfl)

theorem line_violations_kept {rules : List Rule}
    (keep : ∀ rule ∈ rules, KeepsOthers raws line cut rule) :
    rules.filterMap (violationOf? cut) =
      (rules.filterMap (violationOf? line)).filter fun v => !v.ofFinalBlanks raws := by
  rw [List.filter_filterMap]
  exact List.filterMap_congr keep

theorem violations_kept {rules : List Rule} {lines cuts : List Line}
    (keep : List.Forall₂ (fun line cut => ∀ rule ∈ rules, KeepsOthers raws line cut rule) lines cuts) :
    (scanLines rules cuts).violations =
      (scanLines rules lines).violations.filter fun v => !v.ofFinalBlanks raws := by
  simp only [scan_lines_violations]
  induction keep with
  | nil => rfl
  | cons first _ ih =>
    rw [List.flatMap_cons, List.flatMap_cons, List.filter_append, line_violations_kept first, ih]

end

theorem source_line_single {text : List Char} {line : Line} (member : line ∈ sourceLines text) :
    '\n' ∉ line.text ∧ '\n' ∉ line.code := by
  obtain ⟨_, place, first, last, runs⟩ := source_line member
  have ordinary := split_lines_ordinary text line.text (List.mem_of_getElem? place)
  constructor
  · intro feed
    cases ordinary _ feed
  · intro feed
    cases Masker.veiled_ordinary (Masker.runs_veil runs) ordinary _ feed

theorem scan_without_blanks {text : List Char} (noReturn : '\r' ∉ text)
    (ended : text = [] ∨ text.getLast? = some '\n') :
    scanText Rule.builtin (withoutLineBlanks text) =
      (scanText Rule.builtin text).keeping fun v => !v.ofFinalBlanks (splitLines text) := by
  have related := source_lines_trimmed noReturn ended
  have keep : List.Forall₂ (fun line cut =>
      ∀ rule ∈ Rule.builtin, KeepsOthers (splitLines text) line cut rule)
      (sourceLines text) (sourceLines (withoutLineBlanks text)) := by
    have within := (List.forall₂_and_left _ _).mpr ⟨fun line member => member, related⟩
    refine within.imp ?_
    rintro line cut ⟨member, trims⟩
    obtain ⟨_, place, _⟩ := source_line member
    obtain ⟨text, code⟩ := source_line_single member
    refine builtin_keep_others trims place ?_ ?_
    · rw [trims.text]
      exact fun feed => text (trimmed_mem feed)
    · obtain ⟨hidden, _, eq⟩ := trims.code
      rw [eq, List.mem_append, not_or] at code
      exact code.1
  have violations := violations_kept keep
  rw [ScanResult.keeping, scanText, scanText, ← violations, scanLines, scanLines, related.length_eq]

theorem trailing_of_final_blanks {raws : List (List Char)} {v : Violation}
    (kept : (!v.ofFinalBlanks raws) = true) : v.ruleId ≠ Rule.trailingWhitespace.id := by
  intro trailing
  simp [Violation.ofFinalBlanks, trailing] at kept

/-- Without the spaces and tabs at the ends of its lines a source is found to have the same lines and
    the same violations, in the same order, but for those about these spaces and tabs. -/
theorem final_blanks_touch_nothing_else {text : List Char} (noReturn : '\r' ∉ text)
    (ended : text = [] ∨ text.getLast? = some '\n') {source cut : Source}
    (reads : source.Reads text) (cutReads : cut.Reads (withoutLineBlanks text)) :
    ∃ result kept,
      scan Registry.builtin.rules source = .ok result ∧
      scan Registry.builtin.rules cut = .ok kept ∧
      kept.lineCount = result.lineCount ∧
      (∀ v ∈ kept.violations, v.ruleId ≠ Rule.trailingWhitespace.id) ∧
      kept.violations = result.violations.filter fun v => !v.ofFinalBlanks (splitLines text) := by
  have same := scan_without_blanks noReturn ended
  refine ⟨scanText Rule.builtin text, scanText Rule.builtin (withoutLineBlanks text),
    scan_readable _ ((text_eq_ok_iff _ _).mpr reads),
    scan_readable _ ((text_eq_ok_iff _ _).mpr cutReads), ?_, ?_, ?_⟩
  · rw [same, ScanResult.keeping]
  · intro v member
    rw [same, ScanResult.keeping] at member
    exact trailing_of_final_blanks (List.mem_filter.mp member).2
  · rw [same, ScanResult.keeping]

def blankEnded : List Char :=
  "let s = \"a\\ \n\t;\" ;  \n \t \n \tlet kB = \\; \nx \x7b \n\x7d\t\n".toList

def blankEndedCut : List Char :=
  "let s = \"a\\\n\t;\" ;\n\n \tlet kB = \\;\nx \x7b\n\x7d\n".toList

theorem blank_ended_touches_nothing_else :
    '\r' ∉ blankEnded ∧ blankEnded.getLast? = some '\n' ∧
    withoutLineBlanks blankEnded = blankEndedCut ∧
    ∃ result kept,
      scan Registry.builtin.rules (.points (blankEnded.map Char.toNat)) = .ok result ∧
      scan Registry.builtin.rules (.points (blankEndedCut.map Char.toNat)) = .ok kept ∧
      result.violations.length = 11 ∧
      kept.violations.map (fun v => (v.ruleId, v.line, v.column)) =
        [("no-semicolons", 2, some 2), ("no-space-indent", 4, some 1),
          ("no-semicolons", 4, some 13), ("no-k-prefix", 4, some 7)] ∧
      kept.violations =
        result.violations.filter fun v => !v.ofFinalBlanks (splitLines blankEnded) := by
  have noReturn : '\r' ∉ blankEnded := by decide +kernel
  have ended : blankEnded.getLast? = some '\n' := by decide +kernel
  have cut : withoutLineBlanks blankEnded = blankEndedCut := by decide +kernel
  have reads := points_read blankEnded
  have cutReads := points_read blankEndedCut
  rw [← cut] at cutReads
  obtain ⟨result, kept, scanned, scannedCut, _, _, same⟩ :=
    final_blanks_touch_nothing_else noReturn (.inr ended) reads cutReads
  rw [cut] at scannedCut
  refine ⟨noReturn, ended, cut, result, kept, scanned, scannedCut, ?_, ?_, same⟩
  · cases scanned.symm.trans (scan_readable _ ((text_eq_ok_iff _ _).mpr reads))
    decide +kernel
  · rw [cut] at cutReads
    cases scannedCut.symm.trans (scan_readable _ ((text_eq_ok_iff _ _).mpr cutReads))
    decide +kernel

end LineLint
