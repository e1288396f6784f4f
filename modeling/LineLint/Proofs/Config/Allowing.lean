import LineLint.Config
import LineLint.Proofs.Glob.Matching

/- Which rules a configuration allows. Every pattern is read in one way, as a glob; that patterns which
   name one rule each are kept apart shows nowhere. -/
namespace LineLint

namespace Config

/-- What a rule has to meet, filter by filter. -/
structure Passes (config : Config) (rule : Rule) : Prop where
  severity : config.minSeverity = .warning ∨ rule.severity = .error
  category : config.categories = [] ∨ rule.group.text ∈ config.categories
  included : config.includeRules = [] ∨
    ∃ p ∈ config.includeRules, Glob.StandsFor p.toList rule.id.toList
  kept : ∀ p ∈ config.excludeRules, ¬ Glob.StandsFor p.toList rule.id.toList

theorem covers_group_iff (config : Config) (group : Group) :
    config.coversGroup group = true ↔ config.categories = [] ∨ group.text ∈ config.categories := by
  simp only [coversGroup, Bool.or_eq_true, List.isEmpty_iff, List.contains_iff_mem]

theorem includes_iff (config : Config) (id : String) :
    config.includes id = true ↔
      config.includeRules = [] ∨ ∃ p ∈ config.includeRules, Glob.StandsFor p.toList id.toList := by
  simp only [includes, Bool.or_eq_true, List.isEmpty_iff, accepts_iff]

theorem excludes_eq_false_iff (config : Config) (id : String) :
    config.excludes id = false ↔ ∀ p ∈ config.excludeRules, ¬ Glob.StandsFor p.toList id.toList := by
  rw [excludes, Bool.eq_false_iff, ne_eq, accepts_iff]
  simp only [not_exists, not_and]

theorem allows_iff_passes (config : Config) (rule : Rule) :
    config.allows rule = true ↔ config.Passes rule := by
  simp only [allows, Bool.and_eq_true, Bool.not_eq_true', covers_group_iff, includes_iff,
    excludes_eq_false_iff, Severity.at_least_iff, and_assoc]
  constructor
  · rintro ⟨severity, category, included, kept⟩
    exact ⟨severity, category, included, kept⟩
  · intro passes
    exact ⟨passes.severity, passes.category, passes.included, passes.kept⟩

/-- A rule is allowed if it passes every filter, with all patterns read as globs. A pattern without
    sets cuts the id into parts, one for each of its characters; a set holds the characters and ranges
    that are written in it, and after an exclamation mark all others. -/
theorem allows_by_globs (config : Config) (rule : Rule) :
    (config.allows rule = true ↔ config.Passes rule) ∧
      (∀ patterns id, (IdFilter.ofPatterns patterns).accepts id =
        patterns.any fun p => globMatches p id) ∧
      (∀ pattern id : String, globMatches pattern id = true ↔
        Glob.StandsFor pattern.toList id.toList) ∧
      (∀ pattern text, '[' ∉ pattern → (Glob.StandsFor pattern text ↔
        ∃ parts, text = parts.flatten ∧ List.Forall₂ Glob.Covers pattern parts)) ∧
      ∀ items : List Bracket.Item, (∀ item ∈ items, item.Plain) →
        ((items.flatMap Bracket.Item.written).head? ≠ some '!' → ∀ c,
          (Bracket.read (items.flatMap Bracket.Item.written)).accepts c =
            items.any fun item => item.holds c) ∧
        ∀ c, (Bracket.read ('!' :: items.flatMap Bracket.Item.written)).accepts c =
          !items.any fun item => item.holds c := by
  refine ⟨allows_iff_passes config rule, accepts_eq_any, glob_matches_iff,
    fun _ _ => Glob.stands_for_iff_cut, fun items plain => ⟨fun unmarked c => ?_, fun c => ?_⟩⟩
  · rw [Bracket.read_written plain unmarked, Bracket.accepts, Bool.bne_false]
  · rw [Bracket.read_marked plain, Bracket.accepts, Bool.bne_true]

def letterConfig : Config := ⟨.warning, ["no-[j-l]*", "no-force-*"], ["no-f*"], []⟩

theorem k_prefix_allowed_by_globs :
    letterConfig.Passes Rule.noKPrefix ∧ ¬ letterConfig.Passes Rule.noForceTry ∧
      ¬ Config.Passes { letterConfig with minSeverity := .error } Rule.noKPrefix ∧
      '[' ∉ "no-f*".toList ∧
      (∃ parts, "no-force-try".toList = parts.flatten ∧
        List.Forall₂ Glob.Covers "no-f*".toList parts) ∧
      (∀ item ∈ [Bracket.Item.range 'j' 'l'], item.Plain) ∧ ['j', '-', 'l'].head? ≠ some '!' ∧
      (Bracket.read ['j', '-', 'l']).accepts 'k' = true ∧
      (Bracket.read ['!', 'j', '-', 'l']).accepts 'k' = false := by
  obtain ⟨allowed, _, matched, cut, sets⟩ := allows_by_globs letterConfig Rule.noKPrefix
  obtain ⟨forced, _⟩ := allows_by_globs letterConfig Rule.noForceTry
  obtain ⟨minor, _⟩ :=
    allows_by_globs { letterConfig with minSeverity := .error } Rule.noKPrefix
  have free : '[' ∉ "no-f*".toList := by decide
  have stands := (matched "no-f*" "no-force-try").mp (by decide)
  have plain : ∀ item ∈ [Bracket.Item.range 'j' 'l'], item.Plain := by
    simp [Bracket.Item.Plain]
  have unmarked : ['j', '-', 'l'].head? ≠ some '!' := by decide
  obtain ⟨within, without⟩ := sets [.range 'j' 'l'] plain
  refine ⟨allowed.mp (by decide), ?_, ?_, free, (cut _ _ free).mp stands, plain, unmarked, ?_, ?_⟩
  · rw [← forced]
    decide
  · rw [← minor]
    decide
  · exact (within unmarked 'k').trans (by decide)
  · exact (without 'k').trans (by decide)

end Config

end LineLint
