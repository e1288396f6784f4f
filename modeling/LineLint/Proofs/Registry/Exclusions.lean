import LineLint.Proofs.Config.Profile
import LineLint.Proofs.Glob.Matching
import LineLint.Proofs.Registry.History

/- Selections as filters of an ordered list: they commute, a second one by the same configuration takes
   nothing more away, and patterns to exclude may be taken away at once or one after the other. -/
namespace LineLint

namespace Registry

theorem select_comm (registry : Registry) (config other : Config) :
    (registry.select config).select other = (registry.select other).select config := by
  apply eq_of_rules
  simp only [select, List.filter_filter]
  apply List.filter_congr
  intro rule _
  exact Bool.and_comm _ _

theorem select_again (registry : Registry) (config : Config) :
    (registry.select config).select config = registry.select config := by
  apply eq_of_rules
  simp only [select, List.filter_filter, Bool.and_self]

theorem select_excluding (registry : Registry) (config : Config) (patterns : List String) :
    (registry.select (config.excluding patterns)).rules =
      (registry.select config).rules.filter fun rule =>
        !patterns.any fun p => globMatches p rule.id := by
  simp only [← accepts_eq_any]
  exact select_excluding_more config (of_patterns_append config.excludeRules patterns) registry

theorem select_permissive (registry : Registry) : registry.select .permissive = registry := by
  apply eq_of_rules
  apply List.filter_eq_self.mpr
  intro rule _
  rfl

theorem select_excluding_alone (registry : Registry) (patterns : List String) :
    (registry.select (Config.permissive.excluding patterns)).rules =
      registry.rules.filter fun rule => !patterns.any fun p => globMatches p rule.id := by
  rw [select_excluding, select_permissive]

end Registry

end LineLint
