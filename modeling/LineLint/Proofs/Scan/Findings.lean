import LineLint.Proofs.Masking.SourceLines
import LineLint.Scan

/- What a scan finds: each violation comes of one line and one rule, whose matcher hit the line and
   whose summary could be filled. -/
namespace LineLint

theorem check_hit {rule : Rule} {line : Line} {hit : Hit} {message : String}
    (found : rule.check line = .ok (some (hit, message))) :
    rule.matcher line = .ok (some hit) ∧ rule.render hit = .ok message := by
  unfold Rule.check at found
  split at found
  · cases found
  · cases found
  · rename_i hit' matched
    split at found
    · cases found
    · rename_i message' rendered
      cases found
      exact ⟨matched, rendered⟩

theorem finding_violation {rule : Rule} {line : Line} {v : Violation}
    (found : (Finding.ofCheck rule line).violation? = some v) :
    ∃ hit message, rule.check line = .ok (some (hit, message)) ∧
      v = .ofHit rule line hit message := by
  unfold Finding.ofCheck at found
  split at found
  · cases found
  · cases found
  · rename_i hit message checked
    cases found
    exact ⟨hit, message, checked, rfl⟩

theorem scan_lines_violation {rules : List Rule} {lines : List Line} {v : Violation}
    (member : v ∈ (scanLines rules lines).violations) :
    ∃ line ∈ lines, ∃ rule ∈ rules, ∃ hit message,
      rule.check line = .ok (some (hit, message)) ∧ v = .ofHit rule line hit message := by
  obtain ⟨finding, among, found⟩ := List.mem_filterMap.mp member
  obtain ⟨line, ofLine, among⟩ := List.mem_flatMap.mp among
  obtain ⟨rule, ofRule, rfl⟩ := List.mem_map.mp among
  exact ⟨line, ofLine, rule, ofRule, finding_violation found⟩

def violationOf? (line : Line) (rule : Rule) : Option Violation :=
  (Finding.ofCheck rule line).violation?

theorem scan_lines_violations (rules : List Rule) (lines : List Line) :
    (scanLines rules lines).violations =
      lines.flatMap fun line => rules.filterMap (violationOf? line) := by
  simp only [scanLines, findings, List.filterMap_flatMap, List.filterMap_map]
  rfl

theorem scan_readable {source : Source} {text : List Char} (rules : List Rule)
    (readable : source.text = .ok text) : scan rules source = .ok (scanText rules text) := by
  rw [scan, readable]
  rfl

theorem scan_line_count (rules : List Rule) (text : List Char) :
    (scanText rules text).lineCount = (splitLines text).length := by
  rw [← source_lines_text text, List.length_map]
  rfl

end LineLint
