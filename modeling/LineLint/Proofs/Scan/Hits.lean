import LineLint.Proofs.Scan.Findings
import LineLint.Proofs.Source.Reading
import LineLint.Rule.Builtin

/- Which violations a scan lists: one for each pair of a line and a rule that hits it and whose summary
   can be filled, by line and then in the order of the rules. A rule that fails on a line counts as
   one that finds nothing there, and rules with ids of their own do not touch each other. -/
namespace LineLint

theorem violation_of_eq_some {line : Line} {rule : Rule} {v : Violation} :
    violationOf? line rule = some v ↔
      ∃ hit message, rule.matcher line = .ok (some hit) ∧ rule.render hit = .ok message ∧
        v = .ofHit rule line hit message := by
  constructor
  · intro found
    obtain ⟨hit, message, checked, rfl⟩ := finding_violation found
    obtain ⟨matched, rendered⟩ := check_hit checked
    exact ⟨hit, message, matched, rendered, rfl⟩
  · rintro ⟨hit, message, matched, rendered, rfl⟩
    simp only [violationOf?, Finding.ofCheck, Rule.check, matched, rendered, Finding.violation?]

def Rule.quiet (rule : Rule) : Rule :=
  { rule with
    matcher := fun line =>
      match rule.check line with
      | .error _ => .ok none
      | .ok _ => rule.matcher line }

theorem violation_rule_id {line : Line} {rule : Rule} {v : Violation}
    (found : violationOf? line rule = some v) : v.ruleId = rule.id := by
  obtain ⟨hit, message, _, _, rfl⟩ := violation_of_eq_some.mp found
  rfl

end LineLint
