import LineLint.Proofs.Masking.Words
import LineLint.Proofs.Matching.Places
import LineLint.Proofs.Scan.Findings
import LineLint.Proofs.Template.Placeholder
import LineLint.Registry

/- A violation of a built-in rule points at what it is about, in the raw line. -/
namespace LineLint
open LineLint.Text

/-- What the text from the place of a violation on begins with, rule by rule. Where a message quotes
    a name, that is the whole word that begins there. -/
def Violation.Shows (v : Violation) (place : List Char) : Prop :=
  match v.ruleId with
  | "no-space-indent" => [' '] <+: place
  | "trailing-whitespace" => [' '] <+: place ∨ ['\t'] <+: place
  | "no-semicolons" => [';'] <+: place
  | "brace-same-line" => ['{'] <+: place
  | "colon-spacing" => [':'] <+: place
  | "type-name-capitalized" =>
      place.takeWhile isWord ≠ [] ∧
        v.message = "Type name '" ++ String.ofList (place.takeWhile isWord) ++
          "' should start with an uppercase letter"
  | "no-k-prefix" =>
      place.takeWhile isWord ≠ [] ∧
        v.message = "Constant '" ++ String.ofList (place.takeWhile isWord) ++ "' uses a 'k' prefix"
  | "no-force-cast" => ['a', 's', '!'] <+: place
  | "no-force-try" => ['t', 'r', 'y', '!'] <+: place
  | _ => False

theorem shows_nonempty {v : Violation} {place : List Char} (shows : v.Shows place) :
    place ≠ [] := by
  rintro rfl
  unfold Violation.Shows at shows
  split at shows <;> simp at shows

def Rule.PointsAtSource (rule : Rule) : Prop :=
  ∀ line : Line, line.Masked → ∀ hit message, rule.check line = .ok (some (hit, message)) →
    ∃ position, hit.column = some (position + 1) ∧
      (Violation.ofHit rule line hit message).Shows (line.text.drop position)

theorem pattern_hit {p : Pattern} {seen : List (String × String) → List Char → Prop}
    (points : p.PointsAt seen) {line : Line} {hit : Hit} (found : p.matcher line = .ok (some hit)) :
    ∃ position, hit.column = some (position + 1) ∧
      seen hit.params ((p.subject.of line).drop position) := by
  obtain ⟨match', search, rfl⟩ := Option.map_eq_some_iff.mp (Except.ok.inj found)
  obtain ⟨position, column, sees⟩ := points _ match' search
  exact ⟨position, congrArg some column, sees⟩

theorem masked_begins {line : Line} (masked : line.Masked) {word : List Char} {n : Nat}
    (noSpace : ' ' ∉ word) (begins : word <+: line.code.drop n) : word <+: line.text.drop n := by
  obtain ⟨_, _, runs⟩ := masked
  exact Masker.veiled_begins (List.forall₂_drop n (Masker.runs_veil runs)) noSpace begins

theorem masked_word {line : Line} (masked : line.Masked) {n : Nat}
    (word : (line.code.drop n).takeWhile isWord ≠ []) :
    (line.text.drop n).takeWhile isWord = (line.code.drop n).takeWhile isWord := by
  obtain ⟨_, _, runs⟩ := masked
  exact Masker.runs_word runs word

theorem code_hit {p : Pattern} {symbol : List Char} (subject : p.subject = .code)
    (points : p.PointsAt fun _ place => symbol <+: place) (noSpace : ' ' ∉ symbol) {line : Line}
    (masked : line.Masked) {hit : Hit} (found : p.matcher line = .ok (some hit)) :
    ∃ position, hit.column = some (position + 1) ∧ symbol <+: line.text.drop position := by
  obtain ⟨position, column, sees⟩ := pattern_hit points found
  rw [subject] at sees
  exact ⟨position, column, masked_begins masked noSpace sees⟩

theorem no_semicolons_points : Rule.noSemicolons.PointsAtSource := by
  intro line masked hit message found
  exact code_hit rfl (Pattern.character_points .code ';') (by decide) masked (check_hit found).1

theorem brace_same_line_points : Rule.braceSameLine.PointsAtSource := by
  intro line masked hit message found
  exact code_hit rfl Pattern.lone_brace_points (by decide) masked (check_hit found).1

theorem colon_spacing_points : Rule.colonSpacing.PointsAtSource := by
  intro line masked hit message found
  exact code_hit rfl Pattern.misplaced_colon_points (by decide) masked (check_hit found).1

theorem no_force_cast_points : Rule.noForceCast.PointsAtSource := by
  intro line masked hit message found
  exact code_hit rfl (Pattern.word_points "as!") (by decide) masked (check_hit found).1

theorem no_force_try_points : Rule.noForceTry.PointsAtSource := by
  intro line masked hit message found
  exact code_hit rfl (Pattern.word_points "try!") (by decide) masked (check_hit found).1

theorem trailing_whitespace_points : Rule.trailingWhitespace.PointsAtSource := by
  intro line masked hit message found
  obtain ⟨position, column, blank, isBlank, begins⟩ :=
    pattern_hit Pattern.trailing_blanks_points (check_hit found).1
  refine ⟨position, column, ?_⟩
  rcases (Bool.or_eq_true _ _).mp isBlank with space | tab
  · exact .inl (eq_of_beq space ▸ begins)
  · exact .inr (eq_of_beq tab ▸ begins)

theorem no_space_indent_points : Rule.noSpaceIndent.PointsAtSource := by
  intro line masked hit message found
  exact Pattern.space_before_tab_points (check_hit found).1

theorem named_message {rule : Rule} {hit : Hit} {message : String} (front back : String)
    (parts : Template.pieces rule.summary.toList =
      (front.toList.map .plain ++
        .field (Template.placeholder "name".toList) :: back.toList.map .plain, none))
    (some : hit.params ≠ []) (rendered : rule.render hit = .ok message) :
    message =
      front ++ String.ofList (Template.Values.get hit.params "name".toList) ++ back := by
  rw [Rule.render, if_neg (mt List.isEmpty_iff.mp some),
    Template.fill_single hit.params (by decide) parts, String.ofList_append, String.ofList_append,
    String.ofList_toList, String.ofList_toList] at rendered
  exact (Except.ok.inj rendered).symm

theorem name_hit {rule : Rule} {p : Pattern} (matcher : rule.matcher = p.matcher)
    (subject : p.subject = .code) (points : p.PointsAt Pattern.Names) (front back : String)
    (parts : Template.pieces rule.summary.toList =
      (front.toList.map .plain ++
        .field (Template.placeholder "name".toList) :: back.toList.map .plain, none))
    {line : Line} (masked : line.Masked) {hit : Hit} {message : String}
    (found : rule.check line = .ok (some (hit, message))) :
    ∃ position, hit.column = some (position + 1) ∧
      (line.text.drop position).takeWhile isWord ≠ [] ∧
      message =
        front ++ String.ofList ((line.text.drop position).takeWhile isWord) ++ back := by
  obtain ⟨matched, rendered⟩ := check_hit found
  rw [matcher] at matched
  obtain ⟨position, column, word, named⟩ := pattern_hit points matched
  rw [subject] at word named
  have whole : (line.text.drop position).takeWhile isWord =
      (line.code.drop position).takeWhile isWord := masked_word masked word
  have some : hit.params ≠ [] := fun none => by rw [none] at named; cases named
  have value : Template.Values.get hit.params "name".toList =
      (line.code.drop position).takeWhile isWord := by
    rw [Template.Values.get, String.ofList_toList, named, Option.getD_some, String.toList_ofList]
    rfl
  refine ⟨position, column, whole ▸ word, ?_⟩
  rw [named_message front back parts some rendered, value, whole]

theorem no_k_prefix_points : Rule.noKPrefix.PointsAtSource := by
  intro line masked hit message found
  exact name_hit rfl rfl Pattern.hungarian_points "Constant '" "' uses a 'k' prefix" rfl masked
    found

theorem type_name_capitalized_points : Rule.typeNameCapitalized.PointsAtSource := by
  intro line masked hit message found
  exact name_hit rfl rfl Pattern.small_type_name_points "Type name '"
    "' should start with an uppercase letter" rfl masked found

theorem builtin_points {rule : Rule} (member : rule ∈ Rule.builtin) : rule.PointsAtSource := by
  simp only [Rule.builtin, List.mem_cons, List.not_mem_nil, or_false] at member
  rcases member with rfl | rfl | rfl | rfl | rfl | rfl | rfl | rfl | rfl
  · exact no_space_indent_points
  · exact trailing_whitespace_points
  · exact no_semicolons_points
  · exact brace_same_line_points
  · exact colon_spacing_points
  · exact type_name_capitalized_points
  · exact no_k_prefix_points
  · exact no_force_cast_points
  · exact no_force_try_points

/-- A source that can be read is scanned, and each violation of the built-in rules is on a line of
    the source, in a column of the raw line in which what the rule reports begins. -/
theorem violations_point_at_source {source : Source} {text : List Char}
    (readable : source.text = .ok text) :
    ∃ result, scan Registry.builtin.rules source = .ok result ∧
      ∀ v ∈ result.violations,
        1 ≤ v.line ∧ v.line ≤ result.lineCount ∧
        ∃ raw column, (splitLines text)[v.line - 1]? = some raw ∧ v.column = some column ∧
          1 ≤ column ∧ column ≤ raw.length ∧ v.Shows (raw.drop (column - 1)) := by
  refine ⟨_, scan_readable _ readable, fun v member => ?_⟩
  obtain ⟨line, ofSource, rule, builtin, hit, message, found, rfl⟩ := scan_lines_violation member
  obtain ⟨first, raw, masked⟩ := source_line ofSource
  obtain ⟨position, column, shows⟩ := builtin_points builtin line masked hit message found
  have inLine : position < line.text.length := by
    by_contra beyond
    exact shows_nonempty shows (List.drop_eq_nil_of_le (Nat.le_of_not_lt beyond))
  have inSource : line.number - 1 < (splitLines text).length :=
    (List.getElem?_eq_some_iff.mp raw).1
  refine ⟨first, ?_, line.text, position + 1, raw, column, by omega, by omega, shows⟩
  rw [scan_line_count]
  simp only [Violation.ofHit]
  omega

theorem declaration_violations_point_at_source :
    (Source.points ("let kA;".toList.map Char.toNat)).text = .ok "let kA;".toList ∧
    (scanText Registry.builtin.rules "let kA;".toList).violations.map Violation.column =
      [some 7, some 5] ∧
    ∀ v ∈ (scanText Registry.builtin.rules "let kA;".toList).violations,
      ∃ raw column, (splitLines "let kA;".toList)[v.line - 1]? = some raw ∧
        v.column = some column ∧ v.Shows (raw.drop (column - 1)) := by
  have readable : (Source.points ("let kA;".toList.map Char.toNat)).text =
      .ok "let kA;".toList := rfl
  refine ⟨readable, by decide +kernel, fun v member => ?_⟩
  obtain ⟨result, scanned, points⟩ := violations_point_at_source readable
  cases scanned.symm.trans (scan_readable _ readable)
  obtain ⟨_, _, raw, column, isRaw, isColumn, _, _, shows⟩ := points v member
  exact ⟨raw, column, isRaw, isColumn, shows⟩

end LineLint
