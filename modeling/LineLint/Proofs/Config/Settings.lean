import LineLint.Config.Settings
import LineLint.Proofs.Config.Writing

/- What a table of settings is read as. Each setting is accepted or refused by itself, whatever the
   profile gives to start from, and a table is refused for the first setting that is. -/
namespace LineLint

section Results

variable {ε α β : Type}

theorem bind_eq_ok {result : Except ε α} {next : α → Except ε β} {b : β} :
    result >>= next = .ok b ↔ ∃ a, result = .ok a ∧ next a = .ok b := by
  cases result <;> simp [bind, Except.bind]

theorem bind_eq_error {result : Except ε α} {next : α → Except ε β} {e : ε} :
    result >>= next = .error e ↔ result = .error e ∨ ∃ a, result = .ok a ∧ next a = .error e := by
  cases result <;> simp [bind, Except.bind]

def faultOf : Except ε α → Option ε
  | .ok _ => none
  | .error fault => some fault

theorem fault_of_eq_some {result : Except ε α} {fault : ε} :
    faultOf result = some fault ↔ result = .error fault := by
  cases result <;> simp [faultOf]

theorem fault_of_eq_none {result : Except ε α} :
    faultOf result = none ↔ ∃ a, result = .ok a := by
  cases result <;> simp [faultOf]

theorem fault_of_bind {result : Except ε α} {next : α → Except ε β} {later : Option ε}
    (alike : ∀ a, faultOf (next a) = later) :
    faultOf (result >>= next) = (faultOf result).or later := by
  cases result with
  | ok a => exact alike a
  | error fault => rfl

end Results

namespace Value

theorem text_eq_some {value : Value} {s : String} : value.text? = some s ↔ value = .text s := by
  cases value <;> simp [text?]

theorem map_text_eq_some {items : List Value} {texts : List String} :
    items.mapM text? = some texts ↔ items = texts.map .text := by
  induction items generalizing texts with
  | nil => cases texts <;> simp
  | cons item items ih =>
    simp only [List.mapM_cons, Option.bind_eq_bind, Option.bind_eq_some_iff, text_eq_some, ih,
      Option.pure_def, Option.some.injEq]
    cases texts with
    | nil => simp
    | cons s texts => simp

theorem texts_eq_some {value : Value} {texts : List String} :
    value.texts? = some texts ↔ value = .list (texts.map .text) := by
  cases value with
  | list items => simp [texts?, map_text_eq_some]
  | _ => simp [texts?]

end Value

theorem sorted_names_eq_nil {names : List String} : Text.sortedNames names = [] ↔ names = [] := by
  simp only [List.eq_nil_iff_forall_not_mem, Text.mem_sortedNames]

theorem Severity.of_name_eq_some {s : String} {severity : Severity} :
    ofName? s = some severity ↔ s = severity.name := by
  constructor
  · intro found
    have named := List.find?_some found
    exact (of_decide_eq_true named).symm
  · rintro rfl
    exact of_name_name severity

theorem Category.of_name_eq_some {s : String} {category : Category} :
    ofName? s = some category ↔ s = category.name := by
  constructor
  · intro found
    have named := List.find?_some found
    exact (of_decide_eq_true named).symm
  · rintro rfl
    exact of_name_name category

namespace Config

theorem profile_eq_none {name : String} : profile? name = none ↔ name ∉ profileNames := by
  unfold profile?
  split <;> simp_all [profileNames]

theorem unknown_ids_eq_nil {patterns : List String} :
    unknownIds patterns = [] ↔ ∀ p ∈ patterns, isGlob p = true ∨ p ∈ Rule.builtinIds := by
  simp only [unknownIds, sorted_names_eq_nil, List.filter_eq_nil_iff, Bool.and_eq_true,
    Bool.not_eq_true', List.contains_eq_mem, decide_eq_false_iff_not]
  grind

theorem unknown_categories_eq_nil {names : List String} :
    unknownCategories names = [] ↔ ∀ name ∈ names, ∃ category : Category, name = category.name := by
  simp only [unknownCategories, sorted_names_eq_nil, List.filter_eq_nil_iff, Option.isNone_iff_eq_none,
    ← Category.of_name_eq_some, ← Option.ne_none_iff_exists', ne_eq]

inductive Setting where
  | profile
  | minSeverity
  | includeRules
  | excludeRules
  | categories
  deriving DecidableEq, Repr

namespace Setting

def key : Setting → String
  | .profile => "profile"
  | .minSeverity => "min_severity"
  | .includeRules => "include_rules"
  | .excludeRules => "exclude_rules"
  | .categories => "categories"

def all : List Setting := [.profile, .minSeverity, .includeRules, .excludeRules, .categories]

def fault? (limits : Limits) : Setting → Option Value → Option ConfigFault
  | .profile, given => faultOf (readProfile limits given)
  | .minSeverity, given => faultOf (readSeverity limits permissive.minSeverity given)
  | .includeRules, given => faultOf (readPatterns limits "include_rules" [] given)
  | .excludeRules, given => faultOf (readPatterns limits "exclude_rules" [] given)
  | .categories, given => faultOf (readCategories limits [] given)

def Accepts : Setting → Value → Prop
  | .profile, value => value = .null ∨ ∃ name ∈ profileNames, value = .text name
  | .minSeverity, value => value = .null ∨ ∃ severity : Severity, value = .text severity.name
  | .categories, value =>
      ∃ names : List String, value = .list (names.map .text) ∧
        ∀ name ∈ names, ∃ category : Category, name = category.name
  | _, value =>
      ∃ patterns : List String, value = .list (patterns.map .text) ∧
        ∀ p ∈ patterns, isGlob p = true ∨ p ∈ Rule.builtinIds

def Quotes : Setting → Value → Prop
  | .profile, value => ¬ Accepts .profile value
  | .minSeverity, value => ¬ Accepts .minSeverity value
  | _, value => ∀ texts : List String, value ≠ .list (texts.map .text)

/-- The values that no message about a setting can hold, though one would have to. -/
def Untold (limits : Limits) (setting : Setting) (value : Value) : Prop :=
  setting.Quotes value ∧
    (limits.Stops setting.key value .tooDeep ∨
      limits.Stops setting.key value .longInteger ∧ setting ≠ .minSeverity)

/-- What a value given for a setting comes to. -/
inductive Outcome (limits : Limits) (setting : Setting) (value : Value) :
    Option ConfigFault → Prop
  | accepted (accepts : setting.Accepts value) : Outcome limits setting value none
  | told (fault : SettingFault) (refused : ¬ setting.Accepts value)
      (told : ¬ setting.Untold limits value) :
      Outcome limits setting value (some (.setting fault))
  | untold (fault : UncheckedFault) (untold : setting.Untold limits value) :
      Outcome limits setting value (some (.unchecked fault))

def long : Setting → ConfigFault
  | .minSeverity => .setting .longSeverity
  | _ => .unchecked .longInteger

theorem quoted_refused {setting : Setting} {value : Value} (quotes : setting.Quotes value) :
    ¬ setting.Accepts value := by
  cases setting with
  | profile => exact quotes
  | minSeverity => exact quotes
  | _ => exact fun ⟨texts, same, _⟩ => quotes texts same

variable {limits : Limits}

theorem fault_with_outcome (setting : Setting) {value : Value} (fault : SettingFault)
    (quotes : setting.Quotes value) :
    Outcome limits setting value
      (some (faultWith limits setting.key value setting.long fault)) := by
  have refused := quoted_refused quotes
  unfold faultWith
  cases met : limits.unwritten? setting.key value with
  | none =>
    refine .told fault refused fun untold => ?_
    rcases untold.2 with deep | ⟨long, _⟩
    · cases met.symm.trans (Limits.unwritten_eq_some.mpr deep)
    · cases met.symm.trans (Limits.unwritten_eq_some.mpr long)
  | some obstacle =>
    have stops := Limits.unwritten_eq_some.mp met
    cases obstacle with
    | tooDeep => exact .untold _ ⟨quotes, .inl stops⟩
    | longInteger =>
      by_cases own : setting = .minSeverity
      · subst own
        refine .told _ refused fun untold => ?_
        rcases untold.2 with deep | ⟨_, other⟩
        · cases deep.unique stops
        · exact other rfl
      · have other : setting.long = .unchecked .longInteger := by
          cases setting <;> first | rfl | exact absurd rfl own
        simp only [other]
        exact .untold _ ⟨quotes, .inr ⟨stops, own⟩⟩

theorem named_outcome {α : Type} {setting : Setting} {value : Value} {f : String → Option α}
    {read : Except ConfigFault α}
    (names : setting.Accepts value ↔ value = .null ∨ ∃ name, value = .text name ∧ f name ≠ none)
    (quotes : setting.Quotes value ↔ ¬ setting.Accepts value)
    (absent : value = .null → ∃ a, read = .ok a)
    (known : ∀ a, value.text?.bind f = some a → read = .ok a)
    (unknown : value ≠ .null → value.text?.bind f = none →
      ∃ fault, read = .error (faultWith limits setting.key value setting.long fault)) :
    Outcome limits setting value (faultOf read) := by
  by_cases null : value = .null
  · obtain ⟨a, ok⟩ := absent null
    rw [ok]
    exact .accepted (names.mpr (.inl null))
  cases found : value.text?.bind f with
  | some a =>
    obtain ⟨name, text, named⟩ := Option.bind_eq_some_iff.mp found
    rw [known a found]
    exact .accepted (names.mpr (.inr ⟨name, Value.text_eq_some.mp text, by simp [named]⟩))
  | none =>
    obtain ⟨fault, refused⟩ := unknown null found
    rw [refused]
    refine fault_with_outcome setting fault (quotes.mpr fun accepted => ?_)
    rcases names.mp accepted with absent | ⟨name, rfl, named⟩
    · exact null absent
    · exact named found

theorem profile_outcome (value : Value) :
    Outcome limits .profile value (fault? limits .profile (some value)) := by
  have names : Accepts .profile value ↔
      value = .null ∨ ∃ name, value = .text name ∧ profile? name ≠ none := by
    simp only [Accepts, ne_eq, profile_eq_none, Decidable.not_not, and_comm]
  refine named_outcome names .rfl (fun null => ?_) (fun config found => ?_) fun present found => ?_
  · exact ⟨permissive, by rw [null]; rfl⟩
  · cases value <;> simp_all [readProfile, Value.text?]
  · refine ⟨.unknownProfile value, ?_⟩
    cases value with
    | null => exact absurd rfl present
    | _ => simp only [readProfile, found, long, key]

theorem severity_outcome (value : Value) :
    Outcome limits .minSeverity value (fault? limits .minSeverity (some value)) := by
  have names : Accepts .minSeverity value ↔
      value = .null ∨ ∃ name, value = .text name ∧ Severity.ofName? name ≠ none := by
    simp only [Accepts, Option.ne_none_iff_exists', Severity.of_name_eq_some]
    grind
  refine named_outcome names .rfl (fun null => ?_) (fun severity found => ?_) fun present found => ?_
  · exact ⟨permissive.minSeverity, by rw [null]; rfl⟩
  · cases value <;> simp_all [readSeverity, Value.text?]
  · refine ⟨.notSeverity value, ?_⟩
    cases value with
    | null => exact absurd rfl present
    | _ => simp only [readSeverity, found, long, key]

theorem list_text_inj {texts texts' : List String}
    (same : Value.list (texts.map .text) = .list (texts'.map .text)) : texts = texts' :=
  Option.some.inj ((Value.texts_eq_some.mpr same).symm.trans (Value.texts_eq_some.mpr rfl)).symm

theorem read_texts_cases (limits : Limits) (key : String) (value : Value) :
    (∃ texts : List String, value = .list (texts.map .text) ∧
        readTexts limits key value = .ok texts) ∨
      (∀ texts : List String, value ≠ .list (texts.map .text)) ∧
        readTexts limits key value =
          .error (faultWith limits key value (.unchecked .longInteger) (.notTexts key value)) := by
  cases found : value.texts? with
  | some texts => exact .inl ⟨texts, Value.texts_eq_some.mp found, by rw [readTexts, found]⟩
  | none =>
    refine .inr ⟨fun texts same => ?_, by rw [readTexts, found]⟩
    rw [Value.texts_eq_some.mpr same] at found
    cases found

theorem listed_outcome (key : String) {setting : Setting} {value : Value}
    {read : Except ConfigFault (List String)} {known : List String → Prop}
    (named : setting.key = key)
    (lists : setting.Accepts value ↔
      ∃ texts : List String, value = .list (texts.map .text) ∧ known texts)
    (quotes : setting.Quotes value ↔ ∀ texts : List String, value ≠ .list (texts.map .text))
    (long : setting.long = .unchecked .longInteger)
    (other : ∀ fault, readTexts limits key value = .error fault → read = .error fault)
    (judged : ∀ texts, readTexts limits key value = .ok texts →
      read = .ok texts ∧ known texts ∨ (∃ told, read = .error (.setting told)) ∧ ¬ known texts) :
    Outcome limits setting value (faultOf read) := by
  subst named
  rcases read_texts_cases limits setting.key value with ⟨texts, rfl, ofTexts⟩ | ⟨unlisted, ofValue⟩
  · rcases judged texts ofTexts with ⟨ok, good⟩ | ⟨⟨told, refused⟩, bad⟩
    · rw [ok]
      exact .accepted (lists.mpr ⟨texts, rfl, good⟩)
    · rw [refused]
      refine .told told (fun accepted => ?_) fun untold => quotes.mp untold.1 texts rfl
      obtain ⟨texts', same, good⟩ := lists.mp accepted
      exact bad (list_text_inj same ▸ good)
  · rw [other _ ofValue, ← long]
    exact fault_with_outcome setting _ (quotes.mpr unlisted)

theorem patterns_judged (key : String) {value : Value} {base texts : List String}
    (ofTexts : readTexts limits key value = .ok texts) :
    readPatterns limits key base (some value) = .ok texts ∧
        (∀ p ∈ texts, isGlob p = true ∨ p ∈ Rule.builtinIds) ∨
      (∃ told, readPatterns limits key base (some value) = .error (.setting told)) ∧
        ¬ ∀ p ∈ texts, isGlob p = true ∨ p ∈ Rule.builtinIds := by
  rw [← unknown_ids_eq_nil]
  cases unknown : unknownIds texts with
  | nil =>
    refine .inl ⟨?_, rfl⟩
    simp only [readPatterns, ofTexts, checkPatterns, unknown]
    rfl
  | cons first rest =>
    refine .inr ⟨⟨.unknownRules key (first :: rest), ?_⟩, List.cons_ne_nil first rest⟩
    simp only [readPatterns, ofTexts, checkPatterns, unknown]
    rfl

theorem categories_judged {value : Value} {base texts : List String}
    (ofTexts : readTexts limits "categories" value = .ok texts) :
    readCategories limits base (some value) = .ok texts ∧
        (∀ name ∈ texts, ∃ category : Category, name = category.name) ∨
      (∃ told, readCategories limits base (some value) = .error (.setting told)) ∧
        ¬ ∀ name ∈ texts, ∃ category : Category, name = category.name := by
  rw [← unknown_categories_eq_nil]
  cases unknown : unknownCategories texts with
  | nil => simp [readCategories, ofTexts, unknown]
  | cons first rest => simp [readCategories, ofTexts, unknown]

theorem fault_outcome (limits : Limits) (setting : Setting) (value : Value) :
    Outcome limits setting value (setting.fault? limits (some value)) := by
  cases setting with
  | profile => exact profile_outcome value
  | minSeverity => exact severity_outcome value
  | includeRules =>
    refine listed_outcome "include_rules" rfl .rfl .rfl rfl (fun fault failed => ?_) fun _ =>
      patterns_judged _
    rw [readPatterns, failed]
  | excludeRules =>
    refine listed_outcome "exclude_rules" rfl .rfl .rfl rfl (fun fault failed => ?_) fun _ =>
      patterns_judged _
    rw [readPatterns, failed]
  | categories =>
    refine listed_outcome "categories" rfl .rfl .rfl rfl (fun fault failed => ?_) fun _ =>
      categories_judged
    rw [readCategories, failed]

theorem fault_none (setting : Setting) : setting.fault? limits none = none := by
  cases setting <;> rfl

theorem fault_eq_none {setting : Setting} {given : Option Value} :
    setting.fault? limits given = none ↔ ∀ value, given = some value → setting.Accepts value := by
  cases given with
  | none => simp [fault_none]
  | some value =>
    have outcome := fault_outcome limits setting value
    generalize setting.fault? limits (some value) = fault at outcome
    cases outcome with
    | accepted accepts => simp [accepts]
    | told fault refused _ => simp [refused]
    | untold fault untold => simp [quoted_refused untold.1]

theorem fault_unchecked_iff {setting : Setting} {given : Option Value} :
    (∃ fault, setting.fault? limits given = some (.unchecked fault)) ↔
      ∃ value, given = some value ∧ setting.Untold limits value := by
  cases given with
  | none => simp [fault_none]
  | some value =>
    have outcome := fault_outcome limits setting value
    generalize setting.fault? limits (some value) = fault at outcome
    cases outcome with
    | accepted accepts =>
      have told : ¬ setting.Untold limits value := fun untold => quoted_refused untold.1 accepts
      simp [told]
    | told fault _ told => simp [told]
    | untold fault untold => simp [untold]

end Setting

variable {limits : Limits}

def Overrides {α : Type} (read : α → Except ConfigFault α) : Prop :=
  (∀ base, read base = .ok base) ∨ ∃ outcome, ∀ base, read base = outcome

theorem Overrides.fault {α : Type} {read : α → Except ConfigFault α} (overrides : Overrides read)
    (base base' : α) : faultOf (read base) = faultOf (read base') := by
  rcases overrides with keeps | ⟨outcome, own⟩
  · rw [keeps, keeps]
    rfl
  · rw [own, own]

theorem severity_overrides (given : Option Value) :
    Overrides fun base => readSeverity limits base given := by
  cases given with
  | none => exact .inl fun _ => rfl
  | some value =>
    cases value with
    | null => exact .inl fun _ => rfl
    | _ => exact .inr ⟨_, fun _ => rfl⟩

theorem patterns_override (key : String) (given : Option Value) :
    Overrides fun base => readPatterns limits key base given := by
  cases given with
  | none => exact .inl fun _ => rfl
  | some value => exact .inr ⟨_, fun _ => rfl⟩

theorem categories_override (given : Option Value) :
    Overrides fun base => readCategories limits base given := by
  cases given with
  | none => exact .inl fun _ => rfl
  | some value => exact .inr ⟨_, fun _ => rfl⟩

def tableFault? (limits : Limits) (settings : Settings) : Option ConfigFault :=
  (faultOf (checkKeys (settings.map Prod.fst))).or
    (Setting.all.findSome? fun setting => setting.fault? limits (settings.lookup setting.key))

theorem find_some_cons {α β : Type} (f : α → Option β) (a : α) (rest : List α) :
    (a :: rest).findSome? f = (f a).or (rest.findSome? f) := by
  rw [List.findSome?_cons]
  cases f a <;> rfl

theorem of_settings_fault (settings : Settings) :
    faultOf (ofSettings limits settings) = tableFault? limits settings := by
  simp only [tableFault?, Setting.all, find_some_cons, Setting.key, ofSettings]
  refine fault_of_bind fun _ => fault_of_bind fun base => ?_
  -- What the profile gives to start from moves no later fault.
  rw [Setting.fault?, (severity_overrides _).fault permissive.minSeverity base.minSeverity]
  refine fault_of_bind fun _ => ?_
  rw [Setting.fault?, (patterns_override _ _).fault [] base.includeRules]
  refine fault_of_bind fun _ => ?_
  rw [Setting.fault?, (patterns_override _ _).fault [] base.excludeRules]
  refine fault_of_bind fun _ => ?_
  rw [Setting.fault?, (categories_override _).fault [] base.categories]
  exact fault_of_bind fun _ => rfl

theorem check_keys_cases (names : List String) :
    (∀ name ∈ names, name ∈ knownKeys) ∧ checkKeys names = .ok () ∨
      ¬ (∀ name ∈ names, name ∈ knownKeys) ∧ ∃ fault, checkKeys names = .error (.setting fault) := by
  have known : unknownNames names = [] ↔ ∀ name ∈ names, name ∈ knownKeys := by
    simp only [unknownNames, sorted_names_eq_nil, List.filter_eq_nil_iff, Bool.not_eq_true',
      Bool.not_eq_false, List.contains_eq_mem, decide_eq_true_eq]
  cases unknown : unknownNames names with
  | nil => exact .inl ⟨known.mp unknown, by rw [checkKeys, unknown]⟩
  | cons first rest =>
    refine .inr ⟨fun all => ?_, _, by rw [checkKeys, unknown]⟩
    rw [known.mpr all] at unknown
    cases unknown

/-- A table is accepted if it has no other keys than those of settings, and each setting that is
    given has a value it can have. -/
def Accepts (settings : Settings) : Prop :=
  (∀ name ∈ settings.map Prod.fst, name ∈ knownKeys) ∧
    ∀ setting : Setting, ∀ value, settings.lookup setting.key = some value → setting.Accepts value

theorem of_settings_accepts_iff (limits : Limits) (settings : Settings) :
    (∃ config, ofSettings limits settings = .ok config) ↔ Accepts settings := by
  rw [← fault_of_eq_none, of_settings_fault, tableFault?, Option.or_eq_none_iff,
    List.findSome?_eq_none_iff]
  have every (setting : Setting) : setting ∈ Setting.all := by cases setting <;> decide
  simp only [every, forall_const, Setting.fault_eq_none, Accepts]
  refine and_congr_left fun _ => ?_
  rcases check_keys_cases (settings.map Prod.fst) with ⟨known, checked⟩ | ⟨unknown, fault, checked⟩
  · exact iff_of_true (by rw [checked]; rfl) known
  · exact iff_of_false (by simp [checked, faultOf]) unknown

/-- The first setting with a value that it cannot have has one that no message can hold. -/
def Untold (limits : Limits) (settings : Settings) : Prop :=
  (∀ name ∈ settings.map Prod.fst, name ∈ knownKeys) ∧
    ∃ before setting after value, Setting.all = before ++ setting :: after ∧
      (∀ earlier ∈ before, ∀ value,
        settings.lookup earlier.key = some value → earlier.Accepts value) ∧
      settings.lookup setting.key = some value ∧ setting.Untold limits value

theorem of_settings_unchecked_iff (limits : Limits) (settings : Settings) :
    (∃ fault, ofSettings limits settings = .error (.unchecked fault)) ↔ Untold limits settings := by
  simp only [← fault_of_eq_some, of_settings_fault, tableFault?]
  rcases check_keys_cases (settings.map Prod.fst) with ⟨known, checked⟩ | ⟨unknown, fault, checked⟩
  · simp only [checked, faultOf, Option.none_or, List.findSome?_eq_some_iff, Untold]
    constructor
    · rintro ⟨fault, before, setting, after, order, found, passed⟩
      obtain ⟨value, given, untold⟩ := Setting.fault_unchecked_iff.mp ⟨fault, found⟩
      exact ⟨known, before, setting, after, value, order,
        fun earlier among => Setting.fault_eq_none.mp (passed earlier among), given, untold⟩
    · rintro ⟨_, before, setting, after, value, order, passed, given, untold⟩
      obtain ⟨fault, found⟩ := Setting.fault_unchecked_iff.mpr ⟨value, given, untold⟩
      exact ⟨fault, before, setting, after, order, found,
        fun earlier among => Setting.fault_eq_none.mpr (passed earlier among)⟩
  · simp only [checked, faultOf, Option.some_or, Option.some.injEq, reduceCtorEq, exists_false,
      Untold, unknown, false_and]

theorem of_settings_eq_ok {settings : Settings} {config : Config}
    (accepted : ofSettings limits settings = .ok config) :
    ∃ base, readProfile limits (settings.lookup "profile") = .ok base ∧
      readSeverity limits base.minSeverity (settings.lookup "min_severity") = .ok config.minSeverity ∧
      readPatterns limits "include_rules" base.includeRules (settings.lookup "include_rules") =
        .ok config.includeRules ∧
      readPatterns limits "exclude_rules" base.excludeRules (settings.lookup "exclude_rules") =
        .ok config.excludeRules ∧
      readCategories limits base.categories (settings.lookup "categories") = .ok config.categories := by
  obtain ⟨_, _, rest⟩ := bind_eq_ok.mp accepted
  obtain ⟨base, ofBase, rest⟩ := bind_eq_ok.mp rest
  obtain ⟨severity, ofSeverity, rest⟩ := bind_eq_ok.mp rest
  obtain ⟨included, ofIncluded, rest⟩ := bind_eq_ok.mp rest
  obtain ⟨excluded, ofExcluded, rest⟩ := bind_eq_ok.mp rest
  obtain ⟨categories, ofCategories, rest⟩ := bind_eq_ok.mp rest
  cases rest
  exact ⟨base, ofBase, ofSeverity, ofIncluded, ofExcluded, ofCategories⟩

end Config

end LineLint
