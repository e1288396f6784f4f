import LineLint.Proofs.Report.Record
import LineLint.Proofs.Text.Numbers
import LineLint.Report.Listing
import Mathlib.Algebra.Ring.Nat

/- The three forms of a report agree. The lines are the violations of the record, file by file; the summary
   tells the tally of the record, and the lines tell a severity as often as the tally counts it. -/
namespace LineLint

section Summary

def countPart (color : Bool) (severity : Severity) (n : Nat) : String :=
  Text.styled color severity.style (toString n ++ " " ++ severity.name)

/-- The counts in the parenthesis, errors first. A severity that does not occur is left out. -/
inductive CountsTold (color : Bool) : Nat → Nat → String → Prop where
  | errors {e : Nat} (found : 0 < e) : CountsTold color e 0 (countPart color .error e ++ ")")
  | warnings {w : Nat} (found : 0 < w) : CountsTold color 0 w (countPart color .warning w ++ ")")
  | both {e w : Nat} (found : 0 < e) (found' : 0 < w) :
      CountsTold color e w (countPart color .error e ++ ", " ++ countPart color .warning w ++ ")")

def violationNoun (n : Nat) : String := if n = 1 then "violation" else "violations"

def noneFound (color : Bool) : String := Text.styled color .green "No violations found."

inductive Tally.Told (color : Bool) : Tally → String → Prop where
  | none : Told color ⟨0, 0, 0⟩ (noneFound color)
  | some {e w : Nat} {counts : String} (listed : CountsTold color e w counts) :
      Told color ⟨e + w, e, w⟩ (toString (e + w) ++ " " ++ violationNoun (e + w) ++ " (" ++ counts)

theorem name_apart {s t : Severity} {a b : String} (same : s.name ++ a = t.name ++ b) : s = t ∧ a = b := by
  cases s <;> cases t <;> simp [Severity.name, ← String.toList_inj] at same ⊢
  · exact same
  · exact same

theorem style_apart {s t : Severity} {a b : String}
    (same : String.ofList (Text.styleSequence s.style.code) ++ a =
      String.ofList (Text.styleSequence t.style.code) ++ b) : a = b := by
  cases s <;> cases t <;>
    simp [Severity.style, Text.styleSequence, Text.Style.code, ← String.toList_inj] at same ⊢
  · exact same
  · exact same

theorem count_part_apart {color : Bool} {s t : Severity} {n m : Nat} {a b : String}
    (same : countPart color s n ++ a = countPart color t m ++ b) : s = t ∧ n = m ∧ a = b := by
  unfold countPart Text.styled at same
  cases color with
  | false =>
    simp only [Bool.false_eq_true, if_false, String.append_assoc] at same
    obtain ⟨number, named⟩ := Text.number_apart same
    obtain ⟨severity, rest⟩ := name_apart named
    exact ⟨severity, number, rest⟩
  | true =>
    simp only [if_true, String.append_assoc] at same
    obtain ⟨number, named⟩ := Text.number_apart (style_apart same)
    obtain ⟨severity, rest⟩ := name_apart named
    exact ⟨severity, number, (String.append_right_inj _).mp rest⟩

theorem closed_not_more (rest : String) : ")" ≠ ", " ++ rest := by
  intro same
  have chars := congrArg String.toList same
  simp at chars

section Unique

variable {color : Bool} {line line' : String}

theorem counts_unique {e w e' w' : Nat} (told : CountsTold color e w line)
    (told' : CountsTold color e' w' line') (same : line = line') : e = e' ∧ w = w' := by
  -- The first count tells its severity, and the text after it whether there is a second.
  cases told with
  | errors =>
    cases told' with
    | errors =>
      obtain ⟨-, count, -⟩ := count_part_apart same
      exact ⟨count, rfl⟩
    | warnings => cases (count_part_apart same).1
    | both =>
      simp only [String.append_assoc] at same
      exact absurd (count_part_apart same).2.2 (closed_not_more _)
  | warnings =>
    cases told' with
    | errors => cases (count_part_apart same).1
    | warnings =>
      obtain ⟨-, count, -⟩ := count_part_apart same
      exact ⟨rfl, count⟩
    | both =>
      simp only [String.append_assoc] at same
      cases (count_part_apart same).1
  | both =>
    simp only [String.append_assoc] at same
    cases told' with
    | errors => exact absurd (count_part_apart same).2.2.symm (closed_not_more _)
    | warnings => cases (count_part_apart same).1
    | both =>
      simp only [String.append_assoc] at same
      obtain ⟨-, errors, more⟩ := count_part_apart same
      obtain ⟨-, warnings, -⟩ := count_part_apart ((String.append_right_inj _).mp more)
      exact ⟨errors, warnings⟩

theorem none_found_head (color : Bool) :
    ∃ c, (noneFound color).toList.head? = some c ∧ c.isDigit = false := by
  cases color with
  | false => exact ⟨'N', by decide, rfl⟩
  | true => exact ⟨Text.escape, by decide, by decide⟩

theorem none_not_number (n : Nat) (rest : String) : noneFound color ≠ toString n ++ rest := by
  obtain ⟨c, head, symbol⟩ := none_found_head color
  intro same
  rw [same] at head
  exact Text.number_head n rest symbol head

theorem told_unique {tally tally' : Tally} (told : tally.Told color line)
    (told' : tally'.Told color line') (same : line = line') : tally = tally' := by
  cases told with
  | none =>
    cases told' with
    | none => rfl
    | some =>
      simp only [String.append_assoc] at same
      exact absurd same (none_not_number _ _)
  | @some e w counts listed =>
    simp only [String.append_assoc] at same
    cases told' with
    | none => exact absurd same.symm (none_not_number _ _)
    | @some e' w' counts' listed' =>
      simp only [String.append_assoc] at same
      obtain ⟨total, more⟩ := Text.number_apart same
      rw [total] at more
      have counted := (String.append_right_inj _).mp ((String.append_right_inj _).mp more)
      obtain ⟨rfl, rfl⟩ := counts_unique listed listed' counted
      rfl

theorem counts_positive {e w : Nat} (told : CountsTold color e w line) : 0 < e + w := by
  cases told <;> omega

theorem told_none_iff {tally : Tally} (told : tally.Told color line) :
    line = noneFound color ↔ tally.total = 0 := by
  cases told with
  | none => exact ⟨fun _ => rfl, fun _ => rfl⟩
  | @some e w counts listed =>
    have found : ¬ e + w = 0 := (counts_positive listed).ne'
    simp only [String.append_assoc, found, iff_false]
    exact (none_not_number _ _).symm

end Unique

theorem tally_adds_up (violations : List Violation) :
    (Tally.of violations).error + (Tally.of violations).warning = (Tally.of violations).total := by
  induction violations with
  | nil => rfl
  | cons v rest ih =>
    simp only [Tally.of, List.countP_cons, List.length_cons] at ih ⊢
    cases v.severity <;> simp <;> omega

theorem tally_of_shown (shown : List (String × Violation)) :
    Tally.of (shown.map Prod.snd) = ⟨shown.length, countOf .error shown, countOf .warning shown⟩ := by
  simp [Tally.of, countOf, List.countP_map, Function.comp_def]

theorem shown_adds_up (shown : List (String × Violation)) :
    countOf .error shown + countOf .warning shown = shown.length := by
  have adds := tally_adds_up (shown.map Prod.snd)
  rwa [tally_of_shown] at adds

theorem count_text_found {color : Bool} {shown : List (String × Violation)} {severity : Severity}
    (found : 0 < countOf severity shown) :
    countText color shown severity = some (countPart color severity (countOf severity shown)) :=
  if_neg found.ne'

theorem counts_listed (color : Bool) {shown : List (String × Violation)} (found : shown ≠ []) :
    CountsTold color (countOf .error shown) (countOf .warning shown)
      (", ".intercalate ([Severity.error, .warning].filterMap (countText color shown)) ++ ")") := by
  have adds := shown_adds_up shown
  have some' := List.length_pos_of_ne_nil found
  rcases Nat.eq_zero_or_pos (countOf .error shown) with noError | error
  · have warning : 0 < countOf .warning shown := by omega
    have left : countText color shown .error = none := if_pos noError
    simpa [left, count_text_found warning, noError] using CountsTold.warnings warning
  · rcases Nat.eq_zero_or_pos (countOf .warning shown) with noWarning | warning
    · have left : countText color shown .warning = none := if_pos noWarning
      simpa [left, count_text_found error, noWarning] using CountsTold.errors error
    · simpa [count_text_found error, count_text_found warning] using
        CountsTold.both error warning

theorem summary_line_told (color : Bool) (reports : List FileReport) (least : Severity) :
    (Record.of reports least).tally.Told color (summaryLine color reports least) := by
  have tally : (Record.of reports least).tally =
      Tally.of ((shownViolations reports least).map Prod.snd) := by
    rw [shown_violations]
    rfl
  rw [tally, tally_of_shown]
  unfold summaryLine
  by_cases found : shownViolations reports least = []
  · simp only [found]
    exact .none
  · have told := Tally.Told.some (counts_listed color found)
    simpa [found, shown_adds_up, violationNoun, String.append_assoc] using told

end Summary

section Lines

def Record.before (record : Record) (file : FileReport) : String :=
  if 1 < record.files.length then file.path ++ ":" else ""

/-- The violations of a record, file by file, each with what stands in front of its line. -/
def Record.entries (record : Record) : List (String × Violation) :=
  record.files.flatMap fun file => file.result.violations.map fun v => (record.before file, v)

def severityTold? (color : Bool) (before line : String) : Option Severity :=
  let named := (line.toList.drop before.length).dropWhile fun c => c ≠ ' '
  Severity.all.find? fun severity =>
    (" " ++ Text.styled color severity.style severity.name ++ ": ").toList.isPrefixOf named

def Record.linesTelling (record : Record) (color : Bool) (lines : List String) (severity : Severity) :
    Nat :=
  ((record.entries.map Prod.fst).zip lines).countP fun entry =>
    severityTold? color entry.1 entry.2 = some severity

theorem report_lines_entries (color : Bool) (reports : List FileReport) (least : Severity) :
    reportLines color reports least =
      (Record.of reports least).entries.map fun entry => violationLine color entry.1 entry.2 := by
  simp only [reportLines, shownViolations, Record.entries, Record.of, List.map_flatMap, List.flatMap_map,
    List.map_map, Record.before, List.length_map, filtered_eq]
  rfl

theorem entries_violations (reports : List FileReport) (least : Severity) :
    (Record.of reports least).entries.map Prod.snd =
      violationsOf (Record.of reports least).files := by
  simp only [Record.entries, violationsOf, List.map_flatMap, List.map_map, Function.comp_def, List.map_id']

theorem location_no_space (v : Violation) : ' ' ∉ v.location.toList := by
  have digits := Text.symbol_not_digit (c := ' ') rfl
  unfold Violation.location
  split
  · simp [digits]
  · simp [digits]

theorem severity_told (color : Bool) (before : String) (v : Violation) :
    severityTold? color before (violationLine color before v) = some v.severity := by
  have place : ∀ c ∈ v.location.toList, decide (c ≠ ' ') = true := by
    intro c member
    refine decide_eq_true ?_
    rintro rfl
    exact location_no_space v member
  have named : ((violationLine color before v).toList.drop before.length).dropWhile (fun c => c ≠ ' ') =
      (" " ++ Text.styled color v.severity.style v.severity.name ++ ": ").toList ++
        (v.message ++ " [" ++ v.ruleId ++ "]").toList := by
    simp only [violationLine, String.toList_append, List.append_assoc]
    rw [List.drop_left' String.length_toList, List.dropWhile_append_of_pos place]
    rfl
  unfold severityTold?
  rw [named]
  cases v.severity <;> cases color <;>
    simp [Severity.all, Text.styled, Text.styleSequence, Severity.style, Text.Style.code, Severity.name]

theorem lines_telling (color : Bool) (reports : List FileReport) (least severity : Severity) :
    (Record.of reports least).linesTelling color (reportLines color reports least) severity =
      (violationsOf (Record.of reports least).files).countP fun v => v.severity = severity := by
  rw [← entries_violations, report_lines_entries, Record.linesTelling, List.zip_map', List.countP_map,
    List.countP_map]
  refine List.countP_congr ?_
  intro entry _
  simp [severity_told]

end Lines

/-- The lines and the summary of a report go with a record: which line stands for which violation, and how
    many lines, violations and severities there are. -/
structure Record.Agrees (record : Record) (color : Bool) (lines : List String) (summary : String) :
    Prop where
  total : lines.length = record.tally.total
  files : (record.files.map fun file => file.result.violations.length).sum = record.tally.total
  rendered : lines = record.entries.map fun entry => violationLine color entry.1 entry.2
  adds : record.tally.error + record.tally.warning = record.tally.total
  errors : record.linesTelling color lines .error = record.tally.error
  warnings : record.linesTelling color lines .warning = record.tally.warning
  told : ∀ tally : Tally, tally.Told color summary ↔ tally = record.tally
  none : summary = noneFound color ↔ record.tally.total = 0

theorem record_agrees (color : Bool) (reports : List FileReport) (least : Severity) :
    (Record.of reports least).Agrees color (reportLines color reports least)
      (summaryLine color reports least) := by
  have summary := summary_line_told color reports least
  have told (tally : Tally) : tally.Told color (summaryLine color reports least) ↔
      tally = (Record.of reports least).tally := by
    constructor
    · intro other
      exact told_unique other summary rfl
    · rintro rfl
      exact summary
  have adds := tally_adds_up (violationsOf (Record.of reports least).files)
  constructor
  · rw [report_lines_entries, List.length_map, ← List.length_map Prod.snd, entries_violations]
    rfl
  · rw [← List.length_flatMap]
    rfl
  · exact report_lines_entries color reports least
  · exact adds
  · exact lines_telling color reports least .error
  · exact lines_telling color reports least .warning
  · exact told
  · exact told_none_iff summary

/-- What is printed as lines, as a summary and as a record agrees for any reports. -/
theorem report_forms_agree (color : Bool) (reports : List FileReport) (least : Severity) :
    ∃ value record, Json.read (reportRecord reports least) = some value ∧
      Record.ofJson? value = some record ∧
      record.Agrees color (reportLines color reports least) (summaryLine color reports least) :=
  ⟨_, _, Json.read_pretty _, record_of_json reports least, record_agrees color reports least⟩

end LineLint
