import LineLint.Proofs.Config.Settings
import LineLint.Proofs.Text.Order

/- The configuration that a table of settings comes to, or what is said of the table. Keys are judged
   before values, and values in the order of the settings; of a value that is wrong the message holds
   the value itself, as far as it can be written. -/
namespace LineLint.Config

/-- The names in a list that have a property, in ascending order. There are some. -/
structure Offends (property : String → Prop) (names found : List String) : Prop where
  nonempty : found ≠ []
  ascending : found.Pairwise (· < ·)
  members : ∀ name, name ∈ found ↔ name ∈ names ∧ property name

theorem offends_iff {property : String → Prop} {test : String → Bool}
    (tests : ∀ name, test name = true ↔ property name) {names found : List String} :
    Offends property names found ↔ found ≠ [] ∧ Text.sortedNames (names.filter test) = found := by
  simp only [Text.sorted_names_eq_iff, List.mem_filter, tests]
  exact ⟨fun offends => ⟨offends.nonempty, offends.ascending, offends.members⟩,
    fun ⟨nonempty, ascending, members⟩ => ⟨nonempty, ascending, members⟩⟩

theorem unknown_names_offend {names found : List String} :
    Offends (· ∉ knownKeys) names found ↔ found ≠ [] ∧ unknownNames names = found :=
  offends_iff (by simp)

def UnknownRule (id : String) : Prop := isGlob id = false ∧ id ∉ Rule.builtinIds

theorem unknown_ids_offend {patterns found : List String} :
    Offends UnknownRule patterns found ↔ found ≠ [] ∧ unknownIds patterns = found :=
  offends_iff (by simp [UnknownRule])

def UnknownCategory (name : String) : Prop := ∀ category : Category, name ≠ category.name

theorem unknown_categories_offend {names found : List String} :
    Offends UnknownCategory names found ↔ found ≠ [] ∧ unknownCategories names = found := by
  refine offends_iff fun name => ?_
  simp only [Option.isNone_iff_eq_none, Option.eq_none_iff_forall_ne_some, ne_eq,
    Category.of_name_eq_some, UnknownCategory]

namespace Setting

/-- What is said of a value, given what a message with the value in it would say. -/
inductive Tells (limits : Limits) (setting : Setting) (value : Value) (fault : SettingFault) :
    ConfigFault → Prop
  | tooDeep (stops : limits.Stops setting.key value .tooDeep) :
      Tells limits setting value fault (.unchecked .tooDeepToWrite)
  | tooLong (stops : limits.Stops setting.key value .longInteger) :
      Tells limits setting value fault setting.long
  | written (free : ∀ part ∈ value.parts 0, ∀ other, ¬ limits.Hinders setting.key part other) :
      Tells limits setting value fault (.setting fault)

variable {limits : Limits}

theorem fault_with_eq_iff {setting : Setting} {value : Value} {fault : SettingFault}
    {told : ConfigFault} :
    faultWith limits setting.key value setting.long fault = told ↔
      setting.Tells limits value fault told := by
  constructor
  · rintro rfl
    unfold faultWith
    cases met : limits.unwritten? setting.key value with
    | none => exact .written (Limits.unwritten_eq_none.mp met)
    | some obstacle =>
      have stops := Limits.unwritten_eq_some.mp met
      cases obstacle with
      | tooDeep => exact .tooDeep stops
      | longInteger => exact .tooLong stops
  · intro tells
    cases tells with
    | tooDeep stops => rw [faultWith, Limits.unwritten_eq_some.mpr stops]
    | tooLong stops => rw [faultWith, Limits.unwritten_eq_some.mpr stops]
    | written free => rw [faultWith, Limits.unwritten_eq_none.mpr free]

def Unlisted (limits : Limits) (setting : Setting) (value : Value) (fault : ConfigFault) : Prop :=
  (∀ texts : List String, value ≠ .list (texts.map .text)) ∧
    setting.Tells limits value (.notTexts setting.key value) fault

/-- What is said of a value that a setting cannot have. Of unknown rules all are named, in ascending
    order, but of unknown categories only the first. -/
def Refuses (limits : Limits) : Setting → Value → ConfigFault → Prop
  | .profile, value, fault =>
      ¬ Accepts .profile value ∧ Tells limits .profile value (.unknownProfile value) fault
  | .minSeverity, value, fault =>
      ¬ Accepts .minSeverity value ∧ Tells limits .minSeverity value (.notSeverity value) fault
  | .categories, value, fault =>
      Unlisted limits .categories value fault ∨
        ∃ names first rest, value = .list (names.map .text) ∧
          Offends UnknownCategory names (first :: rest) ∧
          fault = .setting (.unknownCategory first)
  | setting, value, fault =>
      Unlisted limits setting value fault ∨
        ∃ patterns ids, value = .list (patterns.map .text) ∧ Offends UnknownRule patterns ids ∧
          fault = .setting (.unknownRules setting.key ids)

theorem profile_refuses_iff {value : Value} {fault : ConfigFault} :
    readProfile limits (some value) = .error fault ↔ Refuses limits .profile value fault := by
  simp only [Refuses, Accepts, ← fault_with_eq_iff]
  cases value with
  | null => simp [readProfile]
  | text s =>
    have known : profile? s = none ↔ s ∉ profileNames := profile_eq_none
    cases found : profile? s with
    | none => simp [readProfile, Value.text?, found, known.mp found, long, key]
    | some config => simp_all [readProfile, Value.text?]
  | _ => simp [readProfile, Value.text?, long, key]

theorem severity_refuses_iff {base : Severity} {value : Value} {fault : ConfigFault} :
    readSeverity limits base (some value) = .error fault ↔ Refuses limits .minSeverity value fault := by
  simp only [Refuses, Accepts, ← fault_with_eq_iff]
  cases value with
  | null => simp [readSeverity]
  | text s =>
    cases found : Severity.ofName? s with
    | none =>
      have unnamed (severity : Severity) : s ≠ severity.name := fun named => by
        rw [Severity.of_name_eq_some.mpr named] at found
        cases found
      simp [readSeverity, Value.text?, found, unnamed, long, key]
    | some severity =>
      have named := Severity.of_name_eq_some.mp found
      refine iff_of_false (by simp [readSeverity, Value.text?, found]) fun refused => ?_
      exact refused.1 (.inr ⟨severity, congrArg Value.text named⟩)
  | _ => simp [readSeverity, Value.text?, long, key]

theorem unlisted_iff (setting : Setting) {value : Value} {fault : ConfigFault}
    (long : setting.long = .unchecked .longInteger) :
    readTexts limits setting.key value = .error fault ↔ Unlisted limits setting value fault := by
  rw [Unlisted, ← fault_with_eq_iff, long]
  rcases read_texts_cases limits setting.key value with ⟨texts, rfl, ofTexts⟩ | ⟨other, ofValue⟩
  · exact iff_of_false (by simp [ofTexts]) fun unlisted => unlisted.1 texts rfl
  · simp [ofValue, other]

theorem read_texts_ok_iff (limits : Limits) (key : String) {value : Value} {texts : List String} :
    readTexts limits key value = .ok texts ↔ value = .list (texts.map .text) := by
  rw [← Value.texts_eq_some, readTexts]
  cases value.texts? <;> simp

theorem read_patterns_error_iff {key : String} {base : List String} {value : Value}
    {fault : ConfigFault} :
    readPatterns limits key base (some value) = .error fault ↔
      readTexts limits key value = .error fault ∨
        ∃ patterns ids, value = .list (patterns.map .text) ∧ Offends UnknownRule patterns ids ∧
          fault = .setting (.unknownRules key ids) := by
  simp only [← read_texts_ok_iff limits key, readPatterns, unknown_ids_offend]
  cases readTexts limits key value with
  | error other => simp
  | ok texts =>
    cases unknown : unknownIds texts with
    | nil => simp [checkPatterns, Except.mapError, unknown]
    | cons first rest => simp [checkPatterns, Except.mapError, unknown, eq_comm (a := fault)]

theorem read_categories_error_iff {base : List String} {value : Value} {fault : ConfigFault} :
    readCategories limits base (some value) = .error fault ↔
      readTexts limits "categories" value = .error fault ∨
        ∃ names first rest, value = .list (names.map .text) ∧
          Offends UnknownCategory names (first :: rest) ∧
          fault = .setting (.unknownCategory first) := by
  simp only [← read_texts_ok_iff limits "categories", readCategories, unknown_categories_offend]
  cases readTexts limits "categories" value with
  | error other => simp
  | ok texts =>
    cases unknown : unknownCategories texts with
    | nil => simp [unknown]
    | cons first rest => simp [unknown, eq_comm]

theorem fault_eq_some_iff {setting : Setting} {given : Option Value} {fault : ConfigFault} :
    setting.fault? limits given = some fault ↔
      ∃ value, given = some value ∧ setting.Refuses limits value fault := by
  cases given with
  | none => simp [fault_none]
  | some value =>
    simp only [Option.some.injEq, exists_eq_left']
    cases setting with
    | profile => exact fault_of_eq_some.trans profile_refuses_iff
    | minSeverity => exact fault_of_eq_some.trans severity_refuses_iff
    | includeRules =>
      refine fault_of_eq_some.trans (read_patterns_error_iff.trans (or_congr_left ?_))
      exact unlisted_iff .includeRules rfl
    | excludeRules =>
      refine fault_of_eq_some.trans (read_patterns_error_iff.trans (or_congr_left ?_))
      exact unlisted_iff .excludeRules rfl
    | categories =>
      refine fault_of_eq_some.trans (read_categories_error_iff.trans (or_congr_left ?_))
      exact unlisted_iff .categories rfl

end Setting

/-- What is said of a table: of its unknown keys, in ascending order, or else of the first setting
    with a value that it cannot have. -/
inductive Refused (limits : Limits) (settings : Settings) : ConfigFault → Prop
  | keys {names : List String}
      (unknown : Offends (· ∉ knownKeys) (settings.map Prod.fst) names) :
      Refused limits settings (.setting (.unknownKeys names))
  | value {before after : List Setting} {setting : Setting} {value : Value} {fault : ConfigFault}
      (known : ∀ name ∈ settings.map Prod.fst, name ∈ knownKeys)
      (order : Setting.all = before ++ setting :: after)
      (passed : ∀ earlier ∈ before, ∀ value,
        settings.lookup earlier.key = some value → earlier.Accepts value)
      (given : settings.lookup setting.key = some value)
      (refused : setting.Refuses limits value fault) : Refused limits settings fault

theorem check_keys_error_iff {names : List String} {fault : ConfigFault} :
    checkKeys names = .error fault ↔
      ∃ found, Offends (· ∉ knownKeys) names found ∧ fault = .setting (.unknownKeys found) := by
  simp only [unknown_names_offend, checkKeys]
  cases unknownNames names with
  | nil => simp
  | cons first rest => simp [eq_comm]

theorem of_settings_error_iff (limits : Limits) (settings : Settings) (fault : ConfigFault) :
    ofSettings limits settings = .error fault ↔ Refused limits settings fault := by
  rw [← fault_of_eq_some, of_settings_fault, tableFault?, Option.or_eq_some_iff, fault_of_eq_some,
    check_keys_error_iff, fault_of_eq_none, List.findSome?_eq_some_iff]
  constructor
  · rintro (⟨found, unknown, rfl⟩ | ⟨⟨_, checked⟩, before, setting, after, order, found, passed⟩)
    · exact .keys unknown
    · obtain ⟨value, given, refused⟩ := Setting.fault_eq_some_iff.mp found
      rcases check_keys_cases (settings.map Prod.fst) with ⟨known, _⟩ | ⟨_, _, failed⟩
      · exact .value known order (fun earlier among => Setting.fault_eq_none.mp (passed earlier among))
          given refused
      · cases checked.symm.trans failed
  · intro refused
    cases refused with
    | keys unknown => exact .inl ⟨_, unknown, rfl⟩
    | value known order passed given refused =>
      rcases check_keys_cases (settings.map Prod.fst) with ⟨_, checked⟩ | ⟨unknown, _⟩
      · exact .inr ⟨⟨_, checked⟩, _, _, _, order, Setting.fault_eq_some_iff.mpr ⟨_, given, refused⟩,
          fun earlier among => Setting.fault_eq_none.mpr (passed earlier among)⟩
      · exact absurd known unknown

/-- What the settings of a table replace: what a profile gives, or else the defaults. -/
inductive StartsFrom (settings : Settings) : Config → Prop
  | default (unset : settings.lookup "profile" = none ∨ settings.lookup "profile" = some .null) :
      StartsFrom settings ⟨.warning, [], [], []⟩
  | profile {name : String} {base : Config}
      (given : settings.lookup "profile" = some (.text name)) (named : profile? name = some base) :
      StartsFrom settings base

theorem starts_from_iff (limits : Limits) {settings : Settings} {base : Config} :
    readProfile limits (settings.lookup "profile") = .ok base ↔ StartsFrom settings base := by
  constructor
  · intro read
    cases given : settings.lookup "profile" with
    | none =>
      rw [given] at read
      cases read
      exact .default (.inl given)
    | some value =>
      rw [given] at read
      cases value with
      | null =>
        cases read
        exact .default (.inr given)
      | text name =>
        cases named : profile? name with
        | none => simp [readProfile, Value.text?, named] at read
        | some config =>
          simp only [readProfile, Value.text?, Option.bind_some, named] at read
          cases read
          exact .profile given named
      | _ => cases read
  · intro starts
    cases starts with
    | default unset => rcases unset with given | given <;> rw [given] <;> rfl
    | profile given named => simp [readProfile, Value.text?, given, named]

/-- The texts given for a setting, or where it is left out, those there are to start from. -/
inductive Takes (base : List String) : Option Value → List String → Prop
  | own (texts : List String) : Takes base (some (.list (texts.map .text))) texts
  | kept : Takes base none base

/-- Each field of a configuration has the value given for it, an empty list included, or else the one
    there is to start from. Only the severity is also left as it is by a null. -/
structure Fills (settings : Settings) (base config : Config) : Prop where
  minSeverity : settings.lookup "min_severity" = some (.text config.minSeverity.name) ∨
    (settings.lookup "min_severity" = none ∨ settings.lookup "min_severity" = some .null) ∧
      config.minSeverity = base.minSeverity
  includeRules : Takes base.includeRules (settings.lookup "include_rules") config.includeRules
  excludeRules : Takes base.excludeRules (settings.lookup "exclude_rules") config.excludeRules
  categories : Takes base.categories (settings.lookup "categories") config.categories

theorem Takes.unique {base own own' : List String} {given : Option Value}
    (takes : Takes base given own) (takes' : Takes base given own') : own = own' := by
  generalize given = also, same : given = also at takes'
  cases takes with
  | own texts =>
    cases takes' with
    | own texts' => exact Setting.list_text_inj (Option.some.inj same)
    | kept => cases same
  | kept =>
    cases takes' with
    | own texts' => cases same
    | kept => rfl

theorem StartsFrom.unique {settings : Settings} {base base' : Config}
    (starts : StartsFrom settings base) (starts' : StartsFrom settings base') : base = base' :=
  Except.ok.inj
    (((starts_from_iff .unlimited).mpr starts).symm.trans ((starts_from_iff .unlimited).mpr starts'))

theorem read_severity_ok_iff (limits : Limits) {base own : Severity} {given : Option Value} :
    readSeverity limits base given = .ok own ↔
      given = some (.text own.name) ∨ (given = none ∨ given = some .null) ∧ own = base := by
  constructor
  · intro read
    cases given with
    | none => exact .inr ⟨.inl rfl, (Except.ok.inj read).symm⟩
    | some value =>
      cases value with
      | null => exact .inr ⟨.inr rfl, (Except.ok.inj read).symm⟩
      | text s =>
        cases named : Severity.ofName? s with
        | none => simp [readSeverity, Value.text?, named] at read
        | some severity =>
          simp only [readSeverity, Value.text?, Option.bind_some, named] at read
          cases read
          exact .inl (by rw [Severity.of_name_eq_some.mp named])
      | _ => cases read
  · rintro (rfl | ⟨rfl | rfl, rfl⟩)
    · simp [readSeverity, Value.text?, Severity.of_name_name]
    · rfl
    · rfl

theorem texts_taken {key : String} {value : Value} {own : List String}
    {read : Except ConfigFault (List String)} (ok : read = .ok own)
    (other : ∀ fault, readTexts limits key value = .error fault → read = .error fault)
    (judged : ∀ texts, readTexts limits key value = .ok texts →
      read = .ok texts ∨ ∃ told, read = .error (.setting told)) :
    value = .list (own.map .text) := by
  rcases Setting.read_texts_cases limits key value with ⟨texts, rfl, ofTexts⟩ | ⟨_, ofValue⟩
  · rcases judged texts ofTexts with same | ⟨told, refused⟩
    · cases same.symm.trans ok
      rfl
    · cases refused.symm.trans ok
  · cases (other _ ofValue).symm.trans ok

theorem patterns_taken {key : String} {base own : List String} {given : Option Value}
    (read : readPatterns limits key base given = .ok own) : Takes base given own := by
  cases given with
  | none =>
    cases read
    exact .kept
  | some value =>
    rw [texts_taken read (fun fault failed => by rw [readPatterns, failed])
      fun _ ofTexts => (Setting.patterns_judged key ofTexts).imp And.left And.left]
    exact .own own

theorem categories_taken {base own : List String} {given : Option Value}
    (read : readCategories limits base given = .ok own) : Takes base given own := by
  cases given with
  | none =>
    cases read
    exact .kept
  | some value =>
    rw [texts_taken read (fun fault failed => by rw [readCategories, failed])
      fun _ ofTexts => (Setting.categories_judged ofTexts).imp And.left And.left]
    exact .own own

theorem Fills.unique {settings : Settings} {base config config' : Config}
    (fills : Fills settings base config) (fills' : Fills settings base config') :
    config = config' := by
  have read := (read_severity_ok_iff .unlimited).mpr fills.minSeverity
  have read' := (read_severity_ok_iff .unlimited).mpr fills'.minSeverity
  have severity := Except.ok.inj (read.symm.trans read')
  cases config
  cases config'
  simp only [Config.mk.injEq]
  exact ⟨severity, fills.includeRules.unique fills'.includeRules,
    fills.excludeRules.unique fills'.excludeRules, fills.categories.unique fills'.categories⟩

theorem of_settings_ok_iff (limits : Limits) (settings : Settings) (config : Config) :
    ofSettings limits settings = .ok config ↔
      Accepts settings ∧ ∃ base, StartsFrom settings base ∧ Fills settings base config := by
  have filled {config : Config} (accepted : ofSettings limits settings = .ok config) :
      ∃ base, StartsFrom settings base ∧ Fills settings base config := by
    obtain ⟨base, ofBase, severity, included, excluded, categories⟩ := of_settings_eq_ok accepted
    exact ⟨base, (starts_from_iff limits).mp ofBase, (read_severity_ok_iff limits).mp severity,
      patterns_taken included, patterns_taken excluded, categories_taken categories⟩
  rw [← of_settings_accepts_iff]
  constructor
  · intro accepted
    exact ⟨⟨config, accepted⟩, filled accepted⟩
  · -- The table comes to some configuration, and its fields leave no choice.
    rintro ⟨⟨found, accepted⟩, base, starts, fills⟩
    obtain ⟨base', starts', fills'⟩ := filled accepted
    cases starts.unique starts'
    cases fills.unique fills'
    exact accepted

/-- What a table of settings comes to. It stands for a configuration just if its keys are known and
    its values can be had, and then each field has what is given for it or what there is to start
    from. Every other table is refused for the first thing that is wrong with it. What is said of it
    is a fault of the settings, unless no message can hold the value that is wrong. -/
theorem settings_read (limits : Limits) (settings : Settings) :
    ((∃ config, ofSettings limits settings = .ok config) ↔ Accepts settings) ∧
      (∀ config, ofSettings limits settings = .ok config ↔
        Accepts settings ∧ ∃ base, StartsFrom settings base ∧ Fills settings base config) ∧
      (∀ fault, ofSettings limits settings = .error fault ↔ Refused limits settings fault) ∧
      ((∃ fault, ofSettings limits settings = .error (.unchecked fault)) ↔ Untold limits settings) :=
  ⟨of_settings_accepts_iff limits settings, of_settings_ok_iff limits settings, of_settings_error_iff limits settings,
    of_settings_unchecked_iff limits settings⟩

/-- An integer of too many digits is told as a fault of the settings where it is given for the
    severity, but not where it is given for the profile. -/
theorem long_integer_refused (limits : Limits) {n : Int} (long : Value.isLong n = true) :
    ofSettings limits [("min_severity", .integer n)] = .error (.setting .longSeverity) ∧
      ofSettings limits [("profile", .integer n)] = .error (.unchecked .longInteger) := by
  have told (key : String) (instead : ConfigFault) (fault : SettingFault) :
      faultWith limits key (.integer n) instead fault = instead := by
    simp [faultWith, Limits.unwritten?, Limits.obstacle?, Value.parts, long]
  constructor
  · refine bind_eq_error.mpr (.inr ⟨(), rfl, ?_⟩)
    refine bind_eq_error.mpr (.inr ⟨permissive, rfl, ?_⟩)
    exact bind_eq_error.mpr (.inl (congrArg Except.error (told _ _ _)))
  · refine bind_eq_error.mpr (.inr ⟨(), rfl, ?_⟩)
    exact bind_eq_error.mpr (.inl (congrArg Except.error (told _ _ _)))

theorem long_profile_unexpected :
    ofSettings .unlimited [("min_severity", .integer (Decimal.powerOfTen Value.mostDigits))] =
        .error (.setting .longSeverity) ∧
      ofSettings .unlimited [("profile", .integer (Decimal.powerOfTen Value.mostDigits))] =
        .error (.unchecked .longInteger) :=
  long_integer_refused .unlimited
    (by simp only [Value.isLong, Int.natAbs_natCast, le_refl, decide_true])

end LineLint.Config
