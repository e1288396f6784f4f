import LineLint.Proofs.Report.Groups
import LineLint.Proofs.Report.Lines
import LineLint.Proofs.Text.Pieces

/- The catalogue read as lines. Under the header of each group stand the lines of its rules, and every
   rule that is listed has one line; the headers count the rules under them, and all lines have the
   severity in one column and the summary in another. -/
namespace LineLint

def linesOf (text : String) : List String := (Text.pieces '\n' text.toList).map String.ofList

def isHeaderLine (line : String) : Bool := line.toList.head? == some '─'

def isRuleLine (line : String) : Bool := line.toList.head? == some ' '

/-- A header, and the lines of rules from there to the next. -/
structure Section where
  header : String
  entries : List String
  deriving DecidableEq, Repr

/-- The lines of rules that stand under no header, and those under each header. -/
def underHeaders : List String → List String × List Section
  | [] => ([], [])
  | line :: rest =>
      let (loose, sections) := underHeaders rest
      if isHeaderLine line then ([], ⟨line, loose⟩ :: sections)
      else if isRuleLine line then (line :: loose, sections)
      else (loose, sections)

section Reading

variable {lines entries : List String}

theorem rule_line_no_header {line : String} (isRule : isRuleLine line = true) :
    isHeaderLine line = false := by
  rw [isRuleLine, beq_iff_eq] at isRule
  rw [isHeaderLine, isRule]
  rfl

theorem under_headers_entries (areRules : ∀ line ∈ entries, isRuleLine line = true) :
    underHeaders (entries ++ lines) =
      (entries ++ (underHeaders lines).1, (underHeaders lines).2) := by
  induction entries with
  | nil => rfl
  | cons line entries ih =>
    obtain ⟨isRule, areRules⟩ := List.forall_mem_cons.mp areRules
    rw [List.cons_append, underHeaders, ih areRules]
    simp only [rule_line_no_header isRule, isRule, Bool.false_eq_true, if_false, if_true,
      List.cons_append]

theorem under_headers_blank (lines : List String) : underHeaders ("" :: lines) = underHeaders lines := rfl

theorem under_headers_header {line : String} (isHeader : isHeaderLine line = true) :
    underHeaders (line :: lines) =
      ([], ⟨line, (underHeaders lines).1⟩ :: (underHeaders lines).2) := by
  rw [underHeaders]
  simp only [isHeader, if_true]

theorem under_headers_rules (lines : List String) :
    (underHeaders lines).1 ++ (underHeaders lines).2.flatMap Section.entries =
      lines.filter isRuleLine := by
  induction lines with
  | nil => rfl
  | cons line lines ih =>
    rw [underHeaders]
    by_cases isRule : isRuleLine line = true
    · simp [isRule, rule_line_no_header isRule, ← ih]
    · by_cases isHeader : isHeaderLine line = true
      · simp [isRule, isHeader, ← ih]
      · simp [isRule, isHeader, ← ih]

end Reading

section Told

def CountTold (line : String) (count : Nat) : Prop :=
  ∃ after, line = "stylint " ++ version ++ " - " ++ toString count ++ " rules" ++ after

def HeaderTold (line title : String) (count : Nat) : Prop :=
  ∃ fill, line = "── " ++ title ++ " (" ++ toString count ++ ") " ++
    String.ofList (List.replicate fill '─')

/-- What the line of a rule tells: the id in the third column, and the severity and the summary in the
    columns given, each with a gap of at least two spaces in front. -/
structure RuleTold (severityColumn summaryColumn : Nat) (line : String) (rule : Rule) : Prop where
  id : ∃ gap, line.toList.take severityColumn =
    ' ' :: ' ' :: (rule.id.toList ++ List.replicate (gap + 2) ' ')
  severity : ∃ gap, (line.toList.take summaryColumn).drop severityColumn =
    rule.severity.name.toList ++ List.replicate (gap + 2) ' '
  summary : line.toList.drop summaryColumn = rule.summary.toList

theorem count_told_unique {line : String} {n m : Nat} (told : CountTold line n)
    (told' : CountTold line m) : n = m := by
  obtain ⟨after, rfl⟩ := told
  obtain ⟨after', same⟩ := told'
  have spaced : " rules" = " " ++ "rules" := rfl
  simp only [spaced, String.append_assoc, String.append_right_inj] at same
  exact (Text.number_apart same).1

theorem header_told_unique {line title title' : String} {n m : Nat} (told : HeaderTold line title n)
    (told' : HeaderTold line title' m) : title = title' ∧ n = m := by
  obtain ⟨fill, rfl⟩ := told
  obtain ⟨fill', same⟩ := told'
  -- The count stands behind the last parenthesis that opens after a space.
  have unmarked (n fill : Nat) :
      ¬ [' ', '('] <:+: Nat.toDigits 10 n ++ ')' :: ' ' :: List.replicate fill '─' := by
    intro mark
    have opening : '(' ∈ Nat.toDigits 10 n ++ ')' :: ' ' :: List.replicate fill '─' :=
      mark.mem (by decide)
    simp [Text.symbol_not_digit (c := '(') rfl n, List.mem_replicate] at opening
  have chars := congrArg String.toList same
  simp only [String.append_assoc, String.toList_append, Nat.toString_eq_ofList_toDigits,
    String.toList_ofList, List.append_cancel_left_eq] at chars
  obtain ⟨titles, counts⟩ := Text.last_mark_apart (by decide) (unmarked n fill) (unmarked m fill') chars
  exact ⟨String.toList_inj.mp titles, (Text.digits_apart rfl counts).1⟩

end Told

section Written

def cell (width : Nat) (text : String) : List Char :=
  text.toList ++ List.replicate (width - text.length + 2) ' '

theorem cell_length {width : Nat} {text : String} (fits : text.length ≤ width) :
    (cell width text).length = width + 2 := by
  rw [cell, List.length_append, List.length_replicate, String.length_toList]
  omega

theorem rule_line_cells (idWidth severityWidth : Nat) (rule : Rule) :
    (ruleLine false idWidth severityWidth rule).toList =
      ' ' :: ' ' :: (cell idWidth rule.id ++
        (cell severityWidth rule.severity.name ++ rule.summary.toList)) := by
  simp [ruleLine, padRight, Text.styled, cell, List.replicate_add]

theorem rule_line_told {idWidth severityWidth : Nat} {rule : Rule} (id : rule.id.length ≤ idWidth)
    (severity : rule.severity.name.length ≤ severityWidth) :
    RuleTold (idWidth + 4) (idWidth + severityWidth + 6) (ruleLine false idWidth severityWidth rule)
      rule := by
  have first := cell_length id
  have second := cell_length severity
  have front : (' ' :: ' ' :: cell idWidth rule.id).length = idWidth + 4 := by
    rw [List.length_cons, List.length_cons, first]
  have both : (' ' :: ' ' :: cell idWidth rule.id ++ cell severityWidth rule.severity.name).length =
      idWidth + severityWidth + 6 := by
    rw [List.length_append, front, second]
    omega
  have cells := rule_line_cells idWidth severityWidth rule
  constructor
  · refine ⟨idWidth - rule.id.length, ?_⟩
    rw [cells]
    exact List.take_left' front
  · refine ⟨severityWidth - rule.severity.name.length, ?_⟩
    rw [cells, ← List.cons_append, ← List.cons_append, ← List.append_assoc, List.take_left' both]
    exact List.drop_left' front
  · rw [cells, ← List.cons_append, ← List.cons_append, ← List.append_assoc]
    exact List.drop_left' both

theorem rule_line_is_rule (idWidth severityWidth : Nat) (rule : Rule) :
    isRuleLine (ruleLine false idWidth severityWidth rule) = true := by
  rw [isRuleLine, rule_line_cells]
  rfl

theorem max_length_bounds (texts : List String) : ∀ text ∈ texts, text.length ≤ maxLength texts := by
  have grows (least : Nat) : least ≤ texts.foldl (fun n s => max n s.length) least ∧
      ∀ text ∈ texts, text.length ≤ texts.foldl (fun n s => max n s.length) least := by
    induction texts generalizing least with
    | nil => simp
    | cons first texts ih =>
      obtain ⟨least', others⟩ := ih (max least first.length)
      rw [List.foldl_cons, List.forall_mem_cons]
      exact ⟨(Nat.le_max_left ..).trans least', (Nat.le_max_right ..).trans least', others⟩
  exact (grows 0).2

theorem group_header_is_header (group : String) (count : Nat) :
    isHeaderLine (groupHeader group count) = true := by
  simp [isHeaderLine, groupHeader]

theorem group_header_told_iff {group title : String} {n count : Nat} :
    HeaderTold (groupHeader group n) title count ↔ title = groupTitle group ∧ count = n := by
  have own : HeaderTold (groupHeader group n) (groupTitle group) n := ⟨_, rfl⟩
  constructor
  · intro told
    exact header_told_unique told own
  · rintro ⟨rfl, rfl⟩
    exact own

theorem catalogue_header_told_iff {n count : Nat} {total : Option Nat} :
    CountTold (catalogueHeader n total) count ↔ count = n := by
  have own : CountTold (catalogueHeader n total) n := ⟨_, rfl⟩
  constructor
  · intro told
    exact count_told_unique told own
  · rintro rfl
    exact own

theorem group_lines_known (idWidth severityWidth : Nat) (group : String × List Rule) :
    ∀ line ∈ groupLines false idWidth severityWidth group,
      line = "" ∨ isHeaderLine line = true ∨ isRuleLine line = true := by
  have header := group_header_is_header group.1 group.2.length
  simp only [groupLines, Text.styled, Bool.false_eq_true, if_false, List.forall_mem_append,
    List.forall_mem_cons, List.forall_mem_map]
  refine ⟨⟨.inl trivial, .inr (.inl header), .inl trivial, by simp⟩, fun rule _ => ?_⟩
  exact .inr (.inr (rule_line_is_rule idWidth severityWidth rule))

theorem under_headers_groups (idWidth severityWidth : Nat) (groups : List (String × List Rule)) :
    underHeaders (groups.flatMap (groupLines false idWidth severityWidth)) =
      ([], groups.map fun group =>
        ⟨groupHeader group.1 group.2.length, group.2.map (ruleLine false idWidth severityWidth)⟩) := by
  induction groups with
  | nil => rfl
  | cons group groups ih =>
    have areRules : ∀ line ∈ group.2.map (ruleLine false idWidth severityWidth),
        isRuleLine line = true := by
      intro line member
      obtain ⟨rule, _, rfl⟩ := List.mem_map.mp member
      exact rule_line_is_rule idWidth severityWidth rule
    have header := group_header_is_header group.1 group.2.length
    rw [List.flatMap_cons, groupLines, Text.styled, if_neg Bool.false_ne_true, List.append_assoc,
      List.cons_append, under_headers_blank, List.cons_append, under_headers_header header,
      List.cons_append, under_headers_blank, List.nil_append, under_headers_entries areRules, ih,
      List.append_nil, List.map_cons]

end Written

/-- No line feed stands in what the catalogue tells of a rule. -/
structure Rule.OneLine (rule : Rule) : Prop where
  id : LineLint.OneLine rule.id
  summary : LineLint.OneLine rule.summary
  group : LineLint.OneLine rule.group.text

section Lines

variable {rules : List Rule}

theorem line_feed_control : '\n'.toNat < 0x20 := by decide

theorem rule_line_one_line (idWidth severityWidth : Nat) {rule : Rule} (single : rule.OneLine) :
    OneLine (ruleLine false idWidth severityWidth rule) := by
  have id : OneLine (padRight idWidth rule.id) := padded_lacks line_feed_control idWidth single.id
  have severity : OneLine (padRight severityWidth rule.severity.name) :=
    padded_lacks line_feed_control severityWidth (severity_lacks line_feed_control rule.severity)
  simp only [ruleLine, Text.styled, Bool.false_eq_true, if_false, one_line_append]
  exact ⟨⟨⟨⟨⟨by decide, id⟩, by decide⟩, severity⟩, by decide⟩, single.summary⟩

theorem group_lines_one_line (idWidth severityWidth : Nat) {group : String × List Rule}
    (named : OneLine group.1) (single : ∀ rule ∈ group.2, rule.OneLine) :
    ∀ line ∈ groupLines false idWidth severityWidth group, OneLine line := by
  have header : OneLine (groupHeader group.1 group.2.length) :=
    group_header_lacks line_feed_control named group.2.length
  simp only [groupLines, Text.styled, Bool.false_eq_true, if_false, List.forall_mem_append,
    List.forall_mem_cons, List.forall_mem_map]
  refine ⟨⟨by decide, header, by decide, by simp⟩, fun rule listed => ?_⟩
  exact rule_line_one_line _ _ (single rule listed)

theorem catalogue_lines_one_line (single : ∀ rule ∈ rules, rule.OneLine) (total : Option Nat) :
    ∀ line ∈ catalogueLines false rules total, OneLine line := by
  rw [catalogueLines, List.forall_mem_cons]
  refine ⟨catalogue_header_lacks line_feed_control _ _, fun line member => ?_⟩
  obtain ⟨group, inGroups, inGroup⟩ := List.mem_flatMap.mp member
  obtain ⟨⟨rule, listed, named⟩, holds⟩ := grouped_mem inGroups
  exact group_lines_one_line _ _ (named ▸ (single rule listed).group)
    (fun rule inGroup => single rule (holds rule inGroup)) line inGroup

theorem catalogue_lines_of_text (single : ∀ rule ∈ rules, rule.OneLine) (total : Option Nat) :
    linesOf (catalogueText false rules total) = catalogueLines false rules total :=
  Text.pieces_joined rfl (List.cons_ne_nil _ _) (catalogue_lines_one_line single total)

end Lines

/-- What stands below the first line of a catalogue tells the rules group by group: the groups in the
    order in which their texts first appear, in each the rules of that group in their order, and all of
    them together every rule as often as it is listed. -/
structure ToldInGroups (rules : List Rule) (severityColumn summaryColumn : Nat)
    (sections : List Section) (groups : List (String × List Rule)) : Prop where
  names : groups.map Prod.fst = (rules.map fun rule => rule.group.text).eraseDups
  members : ∀ group ∈ groups, group.2 = rules.filter fun rule => rule.group.text = group.1
  each : (groups.flatMap Prod.snd).Perm rules
  adds : (groups.map fun group => group.2.length).sum = rules.length
  headers : List.Forall₂ (fun part group => ∀ title count, HeaderTold part.header title count ↔
    title = groupTitle group.1 ∧ count = group.2.length) sections groups
  entries : List.Forall₂ (fun part group =>
    List.Forall₂ (RuleTold severityColumn summaryColumn) part.entries group.2) sections groups

theorem grouped_told (rules : List Rule) :
    let idWidth := maxLength (rules.map Rule.id)
    let severityWidth := maxLength (rules.map fun rule => rule.severity.name)
    ToldInGroups rules (idWidth + 4) (idWidth + severityWidth + 6)
      ((grouped rules).map fun group =>
        ⟨groupHeader group.1 group.2.length, group.2.map (ruleLine false idWidth severityWidth)⟩)
      (grouped rules) := by
  intro idWidth severityWidth
  constructor
  · rw [grouped_eq, List.map_map]
    exact List.map_id _
  · intro group member
    rw [grouped_eq] at member
    obtain ⟨name, _, rfl⟩ := List.mem_map.mp member
    rfl
  · exact grouped_perm rules
  · exact grouped_sizes rules
  · rw [List.forall₂_map_left_iff, List.forall₂_same]
    exact fun group _ title count => group_header_told_iff
  · rw [List.forall₂_map_left_iff, List.forall₂_same]
    intro group member
    rw [List.forall₂_map_left_iff, List.forall₂_same]
    intro rule inGroup
    have listed := (grouped_mem member).2 rule inGroup
    exact rule_line_told (max_length_bounds _ _ (List.mem_map_of_mem listed))
      (max_length_bounds _ _ (List.mem_map.mpr ⟨rule, listed, rfl⟩))

/-- A catalogue without colour, read line by line, tells every rule of the list once, under the header of
    its group, in the same two columns; and the counts in the headers add up to that in the first line. -/
theorem catalogue_tells_rules {rules : List Rule} (single : ∀ rule ∈ rules, rule.OneLine)
    (total : Option Nat) :
    ∃ first rest sections groups severityColumn summaryColumn,
      linesOf (catalogueText false rules total) = first :: rest ∧
      (∀ count, CountTold first count ↔ count = rules.length) ∧
      (∀ line ∈ rest, line = "" ∨ isHeaderLine line = true ∨ isRuleLine line = true) ∧
      rest.filter isRuleLine = sections.flatMap Section.entries ∧
      underHeaders rest = ([], sections) ∧
      ToldInGroups rules severityColumn summaryColumn sections groups := by
  have under := under_headers_groups (maxLength (rules.map Rule.id))
    (maxLength (rules.map fun rule => rule.severity.name)) (grouped rules)
  refine ⟨_, _, _, _, _, _, catalogue_lines_of_text single total,
    fun count => catalogue_header_told_iff, ?_, ?_, under, grouped_told rules⟩
  · intro line member
    obtain ⟨group, _, inGroup⟩ := List.mem_flatMap.mp member
    exact group_lines_known _ _ group line inGroup
  · rw [← under_headers_rules, under, List.nil_append]

/-- A rule that stands in the list twice, between rules of a group that has the same title as another one,
    of one without a name, and of one whose name looks like a header. -/
def mixedRules : List Rule :=
  let rule (id : String) (severity : Severity) (group : Group) : Rule :=
    ⟨id, severity, "Says " ++ id, fun _ => .ok none, "", group⟩
  [rule "a" .warning (.word "Naming"), rule "long-id" .error (.category .naming),
   rule "a" .warning (.word "Naming"), rule "  b" .error (.word ""),
   rule "c" .error (.word "x (7) ──"), rule "d" .error (.word "naming")]

theorem mixed_rules_told :
    (∀ rule ∈ mixedRules, rule.OneLine) ∧
      ∃ first rest sections groups severityColumn summaryColumn,
        linesOf (catalogueText false mixedRules (some 9)) = first :: rest ∧
        CountTold first 6 ∧
        underHeaders rest = ([], sections) ∧
        groups.map (fun group => (group.1, group.2.map Rule.id)) =
          [("Naming", ["a", "a"]), ("naming", ["long-id", "d"]), ("", ["  b"]), ("x (7) ──", ["c"])] ∧
        ToldInGroups mixedRules severityColumn summaryColumn sections groups := by
  have single : ∀ rule ∈ mixedRules, rule.OneLine := by
    simp only [mixedRules, List.forall_mem_cons]
    exact ⟨⟨by decide, by decide, by decide⟩, ⟨by decide, by decide, by decide⟩,
      ⟨by decide, by decide, by decide⟩, ⟨by decide, by decide, by decide⟩,
      ⟨by decide, by decide, by decide⟩, ⟨by decide, by decide, by decide⟩, by simp⟩
  obtain ⟨first, rest, sections, groups, severityColumn, summaryColumn, lines, counted, -, -, under,
    told⟩ := catalogue_tells_rules single (some 9)
  refine ⟨single, first, rest, sections, groups, severityColumn, summaryColumn, lines,
    (counted 6).mpr rfl, under, ?_, told⟩
  have same : groups = (groups.map Prod.fst).map fun name => (name, membersOf mixedRules name) := by
    rw [List.map_map]
    refine (List.map_id groups).symm.trans (List.map_congr_left fun group member => ?_)
    exact Prod.ext rfl (told.members group member)
  rw [same, told.names, List.map_map]
  rfl

end LineLint
