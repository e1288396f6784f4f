import LineLint.CommandLine.Lint
import LineLint.Proofs.Config.Settings

/- A profile asked for on the command line stands in place of the one that the settings name, except
   for what that one excludes: these rules stay excluded, as if the settings excluded them. -/
namespace LineLint

theorem of_patterns_append (patterns more : List String) (id : String) :
    (IdFilter.ofPatterns (patterns ++ more)).accepts id =
      ((IdFilter.ofPatterns patterns).accepts id || (IdFilter.ofPatterns more).accepts id) := by
  simp only [IdFilter.accepts, IdFilter.ofPatterns, List.filter_append, List.map_append,
    List.any_append, List.contains_append]
  ac_rfl

theorem select_excluding_more (config : Config) {patterns more : List String}
    (joined : ∀ id, (IdFilter.ofPatterns patterns).accepts id =
      (config.excludes id || (IdFilter.ofPatterns more).accepts id)) (registry : Registry) :
    (registry.select { config with excludeRules := patterns }).rules =
      (registry.select config).rules.filter fun rule =>
        !(IdFilter.ofPatterns more).accepts rule.id := by
  simp only [Registry.select, List.filter_filter]
  refine List.filter_congr fun rule _ => ?_
  have others : Config.allows { config with excludeRules := patterns } rule =
      (rule.severity.atLeast config.minSeverity && config.coversGroup rule.group &&
        config.includes rule.id && !(IdFilter.ofPatterns patterns).accepts rule.id) := rfl
  rw [others, joined, Config.allows]
  generalize (IdFilter.ofPatterns more).accepts rule.id = among
  cases among <;> simp

namespace Config

def withoutProfile (settings : Settings) : Settings :=
  settings.filter fun field => field.1 ≠ "profile"

theorem lookup_without_profile (settings : Settings) {key : String} (other : key ≠ "profile") :
    (withoutProfile settings).lookup key = settings.lookup key := by
  induction settings with
  | nil => rfl
  | cons field rest ih =>
    obtain ⟨name, value⟩ := field
    by_cases profile : name = "profile"
    · have skipped : withoutProfile ((name, value) :: rest) = withoutProfile rest := by
        simp [withoutProfile, profile]
      have unlike : (key == name) = false := beq_false_of_ne (profile ▸ other)
      rw [skipped, ih, List.lookup_cons, unlike]
    · have kept : withoutProfile ((name, value) :: rest) = (name, value) :: withoutProfile rest := by
        simp [withoutProfile, profile]
      rw [kept, List.lookup_cons, List.lookup_cons, ih]

theorem lookup_profile_without (settings : Settings) :
    (withoutProfile settings).lookup "profile" = none := by
  rw [List.lookup_eq_none_iff]
  intro field member
  have other := of_decide_eq_true (List.mem_filter.mp member).2
  exact bne_iff_ne.mpr (Ne.symm other)

theorem lookup_setting_without (settings : Settings) {setting : Setting}
    (other : setting ≠ .profile) :
    (withoutProfile settings).lookup setting.key = settings.lookup setting.key := by
  refine lookup_without_profile settings ?_
  cases setting <;> first | decide | exact absurd rfl other

theorem without_profile_accepts {settings : Settings} (accepts : Accepts settings) :
    Accepts (withoutProfile settings) := by
  refine ⟨fun name named => accepts.1 name ?_, fun setting value given => ?_⟩
  · obtain ⟨field, member, rfl⟩ := List.mem_map.mp named
    exact List.mem_map_of_mem (List.mem_filter.mp member).1
  · by_cases profile : setting = .profile
    · cases profile
      cases given.symm.trans (lookup_profile_without settings)
    · exact accepts.2 setting value (lookup_setting_without settings profile ▸ given)

theorem excluded_cases {limits : Limits} {settings : Settings} {config plain : Config}
    (accepted : ofSettings limits settings = .ok config)
    (bare : ofSettings limits (withoutProfile settings) = .ok plain) :
    ∃ base, readProfile limits (settings.lookup "profile") = .ok base ∧
      (settings.lookup "exclude_rules" ≠ none → config.excludeRules = plain.excludeRules) ∧
      (settings.lookup "exclude_rules" = none →
        config.excludeRules = base.excludeRules ∧ plain.excludeRules = []) := by
  obtain ⟨base, ofBase, _, _, excluded, _⟩ := of_settings_eq_ok accepted
  obtain ⟨first, ofFirst, _, _, bareExcluded, _⟩ := of_settings_eq_ok bare
  rw [lookup_profile_without] at ofFirst
  cases ofFirst
  rw [lookup_without_profile settings (by decide)] at bareExcluded
  refine ⟨base, ofBase, fun own => ?_, fun none => ?_⟩
  · obtain ⟨value, given⟩ := Option.ne_none_iff_exists'.mp own
    rw [given] at excluded bareExcluded
    exact Except.ok.inj (excluded.symm.trans bareExcluded)
  · rw [none] at excluded bareExcluded
    exact ⟨(Except.ok.inj excluded).symm, (Except.ok.inj bareExcluded).symm⟩

end Config

namespace CommandLine

/-- The rules that a run applies, given the configuration that is loaded. -/
def LintOptions.rules (options : LintOptions) (registry : Registry) (loaded : Config) :
    Except SettingFault (List Rule) :=
  (options.settle loaded).map fun config => (registry.select config).rules

theorem settle_asked {options : LintOptions} {profile : Config}
    (asked : options.profile = some profile) (loaded : Config) :
    options.settle loaded =
      (Config.checkPatterns "--exclude-rules" options.excludeRules).map fun more =>
        { profile with excludeRules := profile.excludeRules ++ loaded.excludeRules ++ more } := by
  simp only [LintOptions.settle, asked]
  rfl

theorem settled_profile {options : LintOptions} {profile loaded settled : Config}
    (asked : options.profile = some profile) (settles : options.settle loaded = .ok settled) :
    { settled with excludeRules := [] } = { profile with excludeRules := [] } := by
  rw [settle_asked asked] at settles
  cases found : Config.checkPatterns "--exclude-rules" options.excludeRules with
  | error fault =>
    rw [found] at settles
    cases settles
  | ok more =>
    rw [found] at settles
    obtain rfl := Except.ok.inj settles
    rfl

/-- With a profile asked for, all but the patterns to exclude are that profile's. Settings with such
    patterns of their own come to the same whether or not they name a profile. Of any others, the
    rules excluded by the profile they name are left out, and no more. -/
theorem profile_option_overrides {limits : Limits} {settings : Config.Settings}
    {config profile : Config} {options : LintOptions}
    (accepted : Config.ofSettings limits settings = .ok config)
    (asked : options.profile = some profile) :
    ∃ base plain, Config.readProfile limits (settings.lookup "profile") = .ok base ∧
      Config.ofSettings limits (Config.withoutProfile settings) = .ok plain ∧
      (∀ settled, options.settle config = .ok settled →
        { settled with excludeRules := [] } = { profile with excludeRules := [] }) ∧
      (settings.lookup "exclude_rules" ≠ none → options.settle config = options.settle plain) ∧
      (settings.lookup "exclude_rules" = none → ∀ registry,
        options.rules registry config =
          (options.rules registry plain).map (List.filter fun rule => !base.excludes rule.id)) := by
  have accepts := (Config.of_settings_accepts_iff limits settings).mp ⟨config, accepted⟩
  obtain ⟨plain, bare⟩ :=
    (Config.of_settings_accepts_iff limits _).mpr (Config.without_profile_accepts accepts)
  obtain ⟨base, ofBase, own, inherited⟩ := Config.excluded_cases accepted bare
  refine ⟨base, plain, ofBase, bare, fun settled => settled_profile asked, fun given => ?_,
    fun absent registry => ?_⟩
  · rw [settle_asked asked, settle_asked asked, own given]
  · obtain ⟨outlasts, nothing⟩ := inherited absent
    simp only [LintOptions.rules, settle_asked asked, outlasts, nothing, List.append_nil]
    cases Config.checkPatterns "--exclude-rules" options.excludeRules with
    | error fault => rfl
    | ok more =>
      refine congrArg Except.ok (select_excluding_more
        { profile with excludeRules := profile.excludeRules ++ more } (fun id => ?_) registry)
      simp only [Config.excludes, of_patterns_append]
      ac_rfl

def strictOption : LintOptions :=
  ⟨["a.swift"], .text, [], .warning, true, none, some Config.permissive⟩

theorem strict_option_overrides :
    (∃ config plain,
      Config.ofSettings .unlimited
        [("profile", .text "recommended"), ("exclude_rules", .list [.text "no-*"])] = .ok config ∧
      Config.ofSettings .unlimited [("exclude_rules", .list [.text "no-*"])] = .ok plain ∧
      strictOption.settle config = strictOption.settle plain) ∧
    ∃ config plain base,
      Config.ofSettings .unlimited [("profile", .text "recommended")] = .ok config ∧
      Config.ofSettings .unlimited [] = .ok plain ∧ Config.profile? "recommended" = some base ∧
      strictOption.rules .builtin config = (strictOption.rules .builtin plain).map
        (List.filter fun rule => !base.excludes rule.id) := by
  have asked : strictOption.profile = some Config.permissive := rfl
  constructor
  · have accepted : Config.ofSettings .unlimited
        [("profile", .text "recommended"), ("exclude_rules", .list [.text "no-*"])] =
          .ok ⟨.warning, [], ["no-*"], []⟩ := rfl
    obtain ⟨_, plain, _, bare, _, own, _⟩ := profile_option_overrides accepted asked
    exact ⟨_, plain, accepted, bare, own (by simp)⟩
  · have accepted : Config.ofSettings .unlimited [("profile", .text "recommended")] =
        .ok ⟨.warning, [], ["trailing-whitespace"], []⟩ := rfl
    obtain ⟨base, plain, ofBase, bare, _, _, inherited⟩ := profile_option_overrides accepted asked
    cases ofBase
    exact ⟨_, plain, _, accepted, bare, rfl, inherited rfl _⟩

/-- A rule excluded by no more than the profile in the settings does not run. -/
theorem recommended_profile_outlasts_option :
    ∃ config plain settled settledPlain,
      Config.ofSettings .unlimited [("profile", .text "recommended")] = .ok config ∧
      Config.ofSettings .unlimited [] = .ok plain ∧ Config.profile? "strict" = strictOption.profile ∧
      strictOption.settle config = .ok settled ∧ strictOption.settle plain = .ok settledPlain ∧
      (Registry.builtin.select settledPlain).ids = Rule.builtinIds ∧
      (Registry.builtin.select settled).ids =
        Rule.builtinIds.filter fun id => id ≠ "trailing-whitespace" := by
  refine ⟨_, _, _, _, rfl, rfl, rfl, rfl, rfl, ?_, ?_⟩
  all_goals decide +kernel

end CommandLine

end LineLint
