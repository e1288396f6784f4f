import LineLint.Proofs.CommandLine.Patterns
import LineLint.Proofs.CommandLine.Stages
import LineLint.Proofs.Config.Loading
import LineLint.Proofs.Config.Table
import LineLint.Proofs.Registry.Exclusions

/- A run with patterns to exclude beside the run without them. The option changes nothing but the rules
   that are applied, and of these it takes away the ones that a pattern matches. -/
namespace LineLint

namespace Config

/-- Patterns that may be given: globs, and the ids of built-in rules. -/
def Known (patterns : List String) : Prop := ∀ p ∈ patterns, isGlob p = true ∨ p ∈ Rule.builtinIds

instance (patterns : List String) : Decidable (Known patterns) :=
  inferInstanceAs (Decidable (∀ p ∈ patterns, isGlob p = true ∨ p ∈ Rule.builtinIds))

theorem check_patterns_known {key : String} {patterns : List String} (known : Known patterns) :
    checkPatterns key patterns = .ok patterns := by
  rw [checkPatterns, unknown_ids_eq_nil.mpr known]

theorem check_patterns_unknown {key : String} {patterns : List String} (unknown : ¬ Known patterns) :
    ∃ ids, Offends UnknownRule patterns ids ∧
      checkPatterns key patterns = .error (.unknownRules key ids) := by
  cases found : unknownIds patterns with
  | nil => exact absurd (unknown_ids_eq_nil.mp found) unknown
  | cons first rest =>
    refine ⟨first :: rest, unknown_ids_offend.mpr ⟨List.cons_ne_nil first rest, found⟩, ?_⟩
    rw [checkPatterns, found]

theorem excluding_nothing (config : Config) : config.excluding [] = config := by
  rw [excluding, List.append_nil]

end Config

namespace CommandLine

section Words

variable {words : Words} {name other : String}

def Words.without (words : Words) (name : String) : Words :=
  { words with given := words.given.filter fun option => option.name ≠ name }

theorem has_without (unlike : other ≠ name) : (words.without name).has other = words.has other := by
  simp only [Words.has, Words.without, List.any_filter]
  congr 1
  funext option
  by_cases named : option.name = other
  · simp [named, unlike]
  · simp [named]

theorem value_without (unlike : other ≠ name) :
    (words.without name).value? other = words.value? other := by
  simp only [Words.value?, Words.without, ← List.filter_reverse, List.find?_filter]
  congr 2
  funext option
  by_cases named : option.name = other
  · simp [named, unlike]
  · simp [named]

theorem absent_iff : words.has name = false ↔ ∀ option ∈ words.given, option.name ≠ name := by
  simp [Words.has]

theorem find_absent (absent : words.has name = false) :
    words.given.reverse.find? (fun option => option.name = name) = none := by
  rw [List.find?_eq_none]
  intro option member
  simpa using absent_iff.mp absent option (List.mem_reverse.mp member)

theorem value_absent (absent : words.has name = false) : words.value? name = none := by
  rw [Words.value?, find_absent absent]
  rfl

theorem left_out (words : Words) (name : String) : (words.without name).has name = false :=
  absent_iff.mpr fun _ member => of_decide_eq_true (List.mem_filter.mp member).2

theorem without_absent (absent : words.has name = false) : words.without name = words := by
  rw [Words.without, List.filter_eq_self.mpr]
  intro option member
  exact decide_eq_true (absent_iff.mp absent option member)

end Words

/-- The second line gives patterns to exclude, and is read as the first one otherwise. -/
def AlsoExcludes (line line' : List String) (text : String) : Prop :=
  ∃ words, readWords lintForms true line' = .ok words ∧
    readWords lintForms true line = .ok (words.without "--exclude-rules") ∧
    words.value? "--exclude-rules" = some text

theorem also_excludes_front {line : List String} {words : Words}
    (read : readWords lintForms true line = .ok words)
    (absent : words.has "--exclude-rules" = false) (text : String) :
    AlsoExcludes line ("--exclude-rules" :: text :: line) text := by
  have option : isOptionWord "--exclude-rules" = true := by decide
  have taken : readOption lintForms "--exclude-rules" = .ok (.awaiting "--exclude-rules") := rfl
  refine ⟨words.withOptions [⟨"--exclude-rules", some text⟩], ?_, ?_, ?_⟩
  · rw [readWords, if_neg (by decide), if_pos option, taken]
    simp only [read]
    rfl
  · rw [read]
    refine congrArg Except.ok (Eq.trans (without_absent absent).symm ?_)
    simp [Words.without, Words.withOptions]
  · simp [Words.value?, Words.withOptions, List.find?_append, find_absent absent]

section Reading

variable {files : Files} {line line' : List String} {text : String}

theorem check_values_without {words : Words}
    (sound : checkValues files lintForms (words.without "--exclude-rules") = .ok ()) :
    checkValues files lintForms words = .ok () := by
  have fine : words.given.findSome?
      (fun option => valueFault? files lintForms words option.name) = none := by
    rw [List.findSome?_eq_none_iff]
    intro option member
    by_cases own : option.name = "--exclude-rules"
    · rw [own, valueFault?]
      cases words.value? "--exclude-rules" <;> rfl
    · have kept : option ∈ (words.without "--exclude-rules").given :=
        List.mem_filter.mpr ⟨member, decide_eq_true own⟩
      have passed : valueFault? files lintForms (words.without "--exclude-rules") option.name =
          none := by
        unfold checkValues at sound
        split at sound
        · cases sound
        · rename_i none
          exact List.findSome?_eq_none_iff.mp none option kept
      rwa [valueFault?, value_without own] at passed
  rw [checkValues, fine]

theorem read_also {environment : Environment} {options : LintOptions}
    (also : AlsoExcludes line line' text)
    (read : LintOptions.read environment line = .ok (.perform options)) :
    options.excludeRules = [] ∧ LintOptions.read environment line' =
      .ok (.perform { options with excludeRules := patternsIn text }) := by
  obtain ⟨words, ofOther, ofLine, given⟩ := also
  obtain ⟨kept, noColor, checked, asked, rfl⟩ := read_perform_iff.mp read
  obtain ⟨ofKept, noHelp, values, others⟩ := checked_words_iff.mp checked
  cases ofLine.symm.trans ofKept
  constructor
  · rw [Words.lintOptions, value_absent (left_out words _)]
    rfl
  · refine read_perform_iff.mpr ⟨words, noColor, checked_words_iff.mpr ⟨ofOther, ?_, ?_, others⟩, ?_, ?_⟩
    · rwa [has_without (by decide)] at noHelp
    · exact check_values_without values
    · unfold Words.noColor at asked ⊢
      rwa [has_without (by decide)] at asked
    · simp only [Words.lintOptions, Words.format, given]
      rw [value_without (by decide), value_without (by decide), value_without (by decide),
        value_without (by decide)]
      rfl

end Reading

section Settling

variable {options : LintOptions} {loaded settled : Config}

theorem settle_excludes (options : LintOptions) (loaded : Config) :
    ∃ base : Config, ∀ patterns,
      LintOptions.settle { options with excludeRules := patterns } loaded =
        (Config.checkPatterns "--exclude-rules" patterns).map base.excluding := by
  cases options.profile with
  | none => exact ⟨loaded, fun _ => rfl⟩
  | some profile => exact ⟨loaded.underProfile profile, fun _ => rfl⟩

theorem settle_more (none : options.excludeRules = [])
    (settles : options.settle loaded = .ok settled) (patterns : List String) :
    LintOptions.settle { options with excludeRules := patterns } loaded =
      (Config.checkPatterns "--exclude-rules" patterns).map settled.excluding := by
  obtain ⟨base, excludes⟩ := settle_excludes options loaded
  have alone := excludes options.excludeRules
  rw [none, Config.check_patterns_known (by simp [Config.Known])] at alone
  have same : ({ options with excludeRules := [] } : LintOptions) = options := by rw [← none]
  rw [same, settles] at alone
  cases alone
  simp only [excludes, Config.excluding_nothing]

end Settling

end CommandLine

/-- To exclude more patterns is to select once more by these alone; selections commute, and a repeated
    one takes nothing more away. So a line that also gives patterns to exclude applies the rules that
    the line without them applies, in their order, but those that a pattern matches; a pattern that
    names no rule is refused. -/
theorem exclusions_compose (registry : Registry) (config other : Config) (patterns : List String) :
    registry.select (config.excluding patterns) =
        (registry.select config).select (Config.permissive.excluding patterns) ∧
      (registry.select config).select other = (registry.select other).select config ∧
      (registry.select config).select config = registry.select config ∧
      ∀ program environment front rest rest' text options loaded settled,
        CommandLine.Calls program front .lint rest →
        CommandLine.AlsoExcludes rest rest' text →
        CommandLine.LintOptions.read environment rest = .ok (.perform options) →
        environment.config options.config = .ok loaded →
        options.settle loaded = .ok settled →
        ∃ verbose named, CommandLine.Lists text named ∧
          CommandLine.run program environment (front ++ "lint" :: rest) =
            CommandLine.lintFiles verbose environment options
              (Registry.builtin.select settled).rules ∧
          (Config.Known named →
            CommandLine.run program environment (front ++ "lint" :: rest') =
              CommandLine.lintFiles verbose environment options
                ((Registry.builtin.select settled).rules.filter fun rule =>
                  !named.any fun p => globMatches p rule.id)) ∧
          (¬ Config.Known named → ∃ ids, Config.Offends Config.UnknownRule named ids ∧
            CommandLine.run program environment (front ++ "lint" :: rest') =
              .refused ("Error: " ++
                (SettingFault.unknownRules "--exclude-rules" ids).message)) := by
  refine ⟨?_, registry.select_comm config other, registry.select_again config, ?_⟩
  · apply Registry.eq_of_rules
    rw [registry.select_excluding, Registry.select_excluding_alone]
  intro program environment front rest rest' text options loaded settled calls also read load settles
  obtain ⟨verbose, runs⟩ := CommandLine.called_runs calls
  have calling (after : List String) : CommandLine.run program environment (front ++ "lint" :: after) =
      CommandLine.runCommand program environment verbose .lint after := runs environment after
  obtain ⟨none, readAlso⟩ := CommandLine.read_also also read
  have more := CommandLine.settle_more none settles (CommandLine.patternsIn text)
  refine ⟨verbose, _, CommandLine.patterns_in_eq_iff.mp rfl, ?_, fun known => ?_, fun unknown => ?_⟩
  · rw [calling, CommandLine.settled_runs read load settles]
  · rw [Config.check_patterns_known known] at more
    rw [calling, CommandLine.settled_runs readAlso load more, Registry.select_excluding]
    rfl
  · obtain ⟨ids, offends, refused⟩ := Config.check_patterns_unknown unknown
    rw [refused] at more
    exact ⟨ids, offends, by rw [calling, CommandLine.unsettled_refused readAlso load more]⟩

def strictLine : List String := ["--profile", "strict", "--no-color", "a.swift"]

def globbedLine : List String :=
  ["--profile", "strict", "--exclude-rules= no-force-* ,", "--no-color", "a.swift"]

def misspeltLine : List String := "--exclude-rules" :: "no-force" :: strictLine

/-- Two rules are taken from the run, by a glob, and a pattern that names no rule is refused. -/
theorem forced_words_excluded :
    let environment := CommandLine.beside "a.swift" (.file [])
    CommandLine.Calls "stylint" [] .lint strictLine ∧
      CommandLine.AlsoExcludes strictLine globbedLine " no-force-* ," ∧
      CommandLine.AlsoExcludes strictLine misspeltLine "no-force" ∧
      CommandLine.LintOptions.read environment strictLine =
        .ok (.perform CommandLine.strictOption) ∧
      environment.config CommandLine.strictOption.config = .ok .permissive ∧
      CommandLine.strictOption.settle .permissive = .ok .permissive ∧
      Config.Known ["no-force-*"] ∧ ¬ Config.Known ["no-force"] ∧
      (∃ verbose rules, rules.map Rule.id = Rule.builtinIds.take 7 ∧
        CommandLine.run "stylint" environment ("lint" :: globbedLine) =
          CommandLine.lintFiles verbose environment CommandLine.strictOption rules) ∧
      ∃ ids, Config.Offends Config.UnknownRule ["no-force"] ids ∧
        CommandLine.run "stylint" environment ("lint" :: misspeltLine) =
          .refused ("Error: " ++ (SettingFault.unknownRules "--exclude-rules" ids).message) := by
  intro environment
  have calls : CommandLine.Calls "stylint" [] .lint strictLine := ⟨_, rfl, rfl, rfl⟩
  have globbed : CommandLine.AlsoExcludes strictLine globbedLine " no-force-* ," :=
    ⟨_, rfl, rfl, rfl⟩
  have misspelt : CommandLine.AlsoExcludes strictLine misspeltLine "no-force" :=
    CommandLine.also_excludes_front rfl rfl "no-force"
  have read : CommandLine.LintOptions.read environment strictLine =
      .ok (.perform CommandLine.strictOption) := rfl
  have load : environment.config CommandLine.strictOption.config = .ok .permissive := rfl
  have settles : CommandLine.strictOption.settle .permissive = .ok .permissive := rfl
  have known : Config.Known ["no-force-*"] := by decide
  have unknown : ¬ Config.Known ["no-force"] := by decide
  obtain ⟨_, _, _, runs⟩ := exclusions_compose .builtin .permissive .permissive []
  obtain ⟨verbose, named, lists, _, excluded, _⟩ :=
    runs _ _ _ _ _ _ _ _ _ calls globbed read load settles
  obtain ⟨_, named', lists', _, _, refused⟩ :=
    runs _ _ _ _ _ _ _ _ _ calls misspelt read load settles
  obtain rfl : ["no-force-*"] = named := CommandLine.patterns_in_eq_iff.mpr lists
  obtain rfl : ["no-force"] = named' := CommandLine.patterns_in_eq_iff.mpr lists'
  refine ⟨calls, globbed, misspelt, read, load, settles, known, unknown,
    ⟨verbose, _, ?_, excluded known⟩, refused unknown⟩
  decide +kernel

end LineLint
