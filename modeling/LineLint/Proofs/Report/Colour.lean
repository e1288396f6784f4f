import LineLint.Proofs.Report.Groups
import LineLint.Proofs.Text.Styles

/- Colour changes no text. Styles are set around pieces that are already as wide as they are to be, and
   no piece is cut or filled up after that, so each text shows what it is without colour. -/
namespace LineLint

open Text (Plain Shows shows_append shows_itself shows_styled shows_intercalate plain_append
  plain_number strip_shows)

section Report

variable {reports : List FileReport}

/-- No escape character stands in what lines tell of a violation. -/
structure Violation.Clean (v : Violation) : Prop where
  message : Plain v.message
  ruleId : Plain v.ruleId

/-- No escape character stands in the path or in a violation. -/
structure FileReport.Clean (report : FileReport) : Prop where
  path : Plain report.path
  violations : ∀ v ∈ report.result.violations, v.Clean

theorem escape_control : Text.escape.toNat < 0x20 := by decide

theorem severity_plain (severity : Severity) : Plain severity.name := severity_lacks escape_control severity

theorem location_plain (v : Violation) : Plain v.location := by
  unfold Violation.location
  cases v.column with
  | none => exact plain_append.mpr ⟨plain_number _, by decide⟩
  | some column =>
    simp only [plain_append]
    exact ⟨⟨⟨plain_number v.line, by decide⟩, plain_number column⟩, by decide⟩

theorem violation_line_shows {before : String} {v : Violation} (plain : Plain before)
    (clean : v.Clean) : Shows (violationLine true before v) (violationLine false before v) := by
  have front : Plain (before ++ v.location ++ " ") := by
    simp only [plain_append]
    exact ⟨⟨plain, location_plain v⟩, by decide⟩
  have named := shows_append (shows_itself front)
    (shows_styled v.severity.style (severity_plain v.severity))
  have told := shows_append (shows_append named (shows_itself (by decide : Plain ": ")))
    (shows_itself clean.message)
  have marked := shows_append (shows_append told (shows_itself (by decide : Plain " [")))
    (shows_itself clean.ruleId)
  exact shows_append marked (shows_itself (by decide : Plain "]"))

theorem shown_clean (clean : ∀ report ∈ reports, report.Clean) {least : Severity}
    {entry : String × Violation} (shown : entry ∈ shownViolations reports least) :
    Plain entry.1 ∧ entry.2.Clean := by
  simp only [shownViolations, List.mem_flatMap, List.mem_map] at shown
  obtain ⟨report, listed, v, kept, rfl⟩ := shown
  exact ⟨(clean report listed).path,
    (clean report listed).violations v (List.mem_filter.mp kept).1⟩

theorem report_lines_show (clean : ∀ report ∈ reports, report.Clean) (least : Severity) :
    List.Forall₂ Shows (reportLines true reports least) (reportLines false reports least) := by
  unfold reportLines
  rw [List.forall₂_map_left_iff, List.forall₂_map_right_iff, List.forall₂_same]
  rintro ⟨path, v⟩ shown
  obtain ⟨plain, told⟩ := shown_clean clean shown
  refine violation_line_shows ?_ told
  split
  · exact plain_append.mpr ⟨plain, by decide⟩
  · decide

theorem count_texts_show (shown : List (String × Violation)) (severities : List Severity) :
    List.Forall₂ Shows (severities.filterMap (countText true shown))
      (severities.filterMap (countText false shown)) := by
  induction severities with
  | nil => exact .nil
  | cons severity severities ih =>
    by_cases none : countOf severity shown = 0
    · simpa only [List.filterMap_cons, countText, if_pos none] using ih
    · simp only [List.filterMap_cons, countText, if_neg none]
      have counted : Plain (toString (countOf severity shown) ++ " " ++ severity.name) := by
        simp only [plain_append]
        exact ⟨⟨plain_number _, by decide⟩, severity_plain severity⟩
      exact .cons (shows_styled _ counted) ih

theorem summary_line_shows (reports : List FileReport) (least : Severity) :
    Shows (summaryLine true reports least) (summaryLine false reports least) := by
  unfold summaryLine
  dsimp only
  split
  · exact shows_styled .green (by decide)
  · refine shows_append (shows_append (shows_itself ?_) ?_) (shows_itself (by decide))
    · simp only [plain_append]
      refine ⟨⟨⟨plain_number _, by decide⟩, ?_⟩, by decide⟩
      split <;> decide
    · exact shows_intercalate (by decide) (count_texts_show _ _)

end Report

section Catalogue

/-- No escape character stands in what the catalogue tells of a rule. -/
structure Rule.Clean (rule : Rule) : Prop where
  id : Plain rule.id
  summary : Plain rule.summary
  group : Plain rule.group.text

variable {rules : List Rule}

theorem rule_line_shows (idWidth severityWidth : Nat) {rule : Rule} (clean : rule.Clean) :
    Shows (ruleLine true idWidth severityWidth rule) (ruleLine false idWidth severityWidth rule) := by
  have named := shows_append (shows_itself (by decide : Plain "  "))
    (shows_styled .bold (padded_lacks escape_control idWidth clean.id))
  have graded := shows_append (shows_append named (shows_itself (by decide : Plain "  ")))
    (shows_styled rule.severity.style (padded_lacks escape_control severityWidth (severity_plain rule.severity)))
  exact shows_append (shows_append graded (shows_itself (by decide : Plain "  ")))
    (shows_itself clean.summary)

theorem group_lines_show (idWidth severityWidth : Nat) {group : String × List Rule}
    (plain : Plain group.1) (clean : ∀ rule ∈ group.2, rule.Clean) :
    List.Forall₂ Shows (groupLines true idWidth severityWidth group)
      (groupLines false idWidth severityWidth group) := by
  have lines : List.Forall₂ Shows (group.2.map (ruleLine true idWidth severityWidth))
      (group.2.map (ruleLine false idWidth severityWidth)) := by
    rw [List.forall₂_map_left_iff, List.forall₂_map_right_iff, List.forall₂_same]
    exact fun rule listed => rule_line_shows idWidth severityWidth (clean rule listed)
  have header := shows_styled .bold (group_header_lacks escape_control plain group.2.length)
  exact .cons (shows_itself (by decide)) (.cons header (.cons (shows_itself (by decide)) lines))

theorem catalogue_lines_show (clean : ∀ rule ∈ rules, rule.Clean) (total : Option Nat) :
    List.Forall₂ Shows (catalogueLines true rules total) (catalogueLines false rules total) := by
  refine .cons (shows_itself (catalogue_header_lacks escape_control _ _)) ?_
  refine List.rel_flatMap (R := fun a b => a = b ∧ a ∈ grouped rules) ?_ ?_
  · exact List.forall₂_same.mpr fun group member => ⟨rfl, member⟩
  · rintro group _ ⟨rfl, member⟩
    obtain ⟨⟨rule, listed, named⟩, holds⟩ := grouped_mem member
    exact group_lines_show _ _ (named ▸ (clean rule listed).group)
      fun rule inGroup => clean rule (holds rule inGroup)

theorem catalogue_text_shows (clean : ∀ rule ∈ rules, rule.Clean) (total : Option Nat) :
    Shows (catalogueText true rules total) (catalogueText false rules total) :=
  shows_intercalate (by decide) (catalogue_lines_show clean total)

end Catalogue

/-- Without the sequences, what is printed in colour is what is printed where colour is not wanted, line
    by line and to the last column. -/
theorem colour_changes_no_text {reports : List FileReport} {rules : List Rule}
    (clean : ∀ report ∈ reports, report.Clean) (told : ∀ rule ∈ rules, rule.Clean)
    (least : Severity) (total : Option Nat) :
    let coloured := usesColor false none
    let colourless := usesColor true none
    (List.Forall₂ Shows (reportLines coloured reports least) (reportLines colourless reports least) ∧
      Shows (summaryLine coloured reports least) (summaryLine colourless reports least) ∧
      Shows (catalogueText coloured rules total) (catalogueText colourless rules total)) ∧
    (reportLines coloured reports least).map Text.stripSequences =
        reportLines colourless reports least ∧
      Text.stripSequences (summaryLine coloured reports least) =
        summaryLine colourless reports least ∧
      Text.stripSequences (catalogueText coloured rules total) =
        catalogueText colourless rules total := by
  intro coloured colourless
  have lines : List.Forall₂ Shows (reportLines coloured reports least)
      (reportLines colourless reports least) := report_lines_show clean least
  have summary : Shows (summaryLine coloured reports least)
      (summaryLine colourless reports least) := summary_line_shows reports least
  have catalogue : Shows (catalogueText coloured rules total)
      (catalogueText colourless rules total) := catalogue_text_shows told total
  refine ⟨⟨lines, summary, catalogue⟩, ?_, strip_shows summary, strip_shows catalogue⟩
  have stripped := lines.imp fun _ _ => strip_shows
  rwa [← List.forall₂_map_left_iff, List.forall₂_eq_eq_eq] at stripped

def styledReport : FileReport :=
  ⟨"[1ma.swift", ⟨[⟨"a", .error, 3, "[31mred[0m", some 7, ""⟩, ⟨"b", .warning, 4, "", none, ""⟩], 9⟩⟩

def styledRule : Rule := ⟨"a", .error, "[31mred[0m", fun _ => .ok none, "", .word "[1m"⟩

theorem looks_styled_changes_no_text :
    usesColor false none = true ∧
      (∀ report ∈ [styledReport, styledReport], report.Clean) ∧
      (∀ rule ∈ [styledRule], rule.Clean) ∧
      Text.stripSequences (summaryLine true [styledReport, styledReport] .warning) =
        "4 violations (2 error, 2 warning)" ∧
      Text.stripSequences (catalogueText true [styledRule] (some 2)) =
        catalogueText false [styledRule] (some 2) := by
  have clean : ∀ report ∈ [styledReport, styledReport], report.Clean := by
    have own : styledReport.Clean := by
      refine ⟨by decide, fun v member => ?_⟩
      simp only [styledReport, List.mem_cons, List.not_mem_nil, or_false] at member
      rcases member with rfl | rfl <;> exact ⟨by decide, by decide⟩
    simp [own]
  have told : ∀ rule ∈ [styledRule], rule.Clean := by
    have own : styledRule.Clean := ⟨by decide, by decide, by decide⟩
    simp [own]
  obtain ⟨-, -, summary, catalogue⟩ := colour_changes_no_text clean told .warning (some 2)
  exact ⟨rfl, clean, told, summary.trans (by decide), catalogue⟩

end LineLint
