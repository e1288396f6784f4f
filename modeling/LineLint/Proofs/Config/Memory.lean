import LineLint.Config.Memory
import LineLint.Proofs.Config.Allowing

/- The memory shows nowhere. What it does not compare, the filters and the matcher, either follows from
   what it compares or has no part in the answer; so an entry answers every question that is the same to
   the memory, and each answer is the one found without it. -/
namespace LineLint

theorem same_names_iff {names others : List String} :
    PreparedConfig.sameNames names others = true ↔ ∀ name, name ∈ names ↔ name ∈ others := by
  simp only [PreparedConfig.sameNames, Bool.and_eq_true, List.all_eq_true, List.contains_iff_mem]
  constructor
  · rintro ⟨within, back⟩ name
    exact ⟨within name, back name⟩
  · intro same
    exact ⟨fun name => (same name).mp, fun name => (same name).mpr⟩

theorem accepts_congr {patterns others : List String} (same : ∀ p, p ∈ patterns ↔ p ∈ others)
    (id : String) : (IdFilter.ofPatterns patterns).accepts id = (IdFilter.ofPatterns others).accepts id := by
  rw [Bool.eq_iff_iff, accepts_iff, accepts_iff]
  simp only [same]

theorem is_empty_congr {names others : List String} (same : ∀ name, name ∈ names ↔ name ∈ others) :
    names.isEmpty = others.isEmpty := by
  rw [Bool.eq_iff_iff, List.isEmpty_iff, List.isEmpty_iff]
  simp only [List.eq_nil_iff_forall_not_mem, same]

theorem contains_congr {names others : List String} (same : ∀ name, name ∈ names ↔ name ∈ others)
    (name : String) : names.contains name = others.contains name := by
  rw [Bool.eq_iff_iff, List.contains_iff_mem, List.contains_iff_mem]
  exact same name

namespace PreparedConfig

/-- Configurations that come from fields, and from these by changing fields. -/
inductive Made : PreparedConfig → Prop
  | anew (fields : Config) : Made (ofConfig fields)
  | changed {config : PreparedConfig} (made : Made config) (changes : ConfigChanges) :
      Made (config.replace changes)

theorem made_of_fields {config : PreparedConfig} (made : Made config) :
    config = ofConfig config.fields := by
  cases made <;> rfl

theorem allows_eq {config : PreparedConfig} (made : Made config) (rule : Rule) :
    config.allows rule = config.fields.allows rule := by
  rw [made_of_fields made]
  generalize config.fields = fields
  have included := accepts_congr (Text.mem_sortedNames · fields.includeRules) rule.id
  have excluded := accepts_congr (Text.mem_sortedNames · fields.excludeRules) rule.id
  simp only [allows, ofConfig, included, excluded, Config.allows, Config.includes, Config.excludes]
  cases rule.severity.atLeast fields.minSeverity <;> cases fields.coversGroup rule.group <;>
    cases fields.includeRules.isEmpty <;> simp

theorem fields_allow_alike {config other : PreparedConfig} {rule rule' : Rule}
    (same : config.agrees other = true) (alike : rule.agrees rule' = true) :
    config.fields.allows rule = other.fields.allows rule' := by
  simp only [agrees, Bool.and_eq_true, beq_iff_eq, same_names_iff] at same
  simp only [Rule.agrees, Bool.and_eq_true, beq_iff_eq] at alike
  obtain ⟨⟨⟨severity, included⟩, excluded⟩, categories⟩ := same
  obtain ⟨⟨⟨⟨id, level⟩, _⟩, _⟩, group⟩ := alike
  simp only [Config.allows, Config.includes, Config.excludes, Config.coversGroup, severity, level, id,
    group, is_empty_congr included, is_empty_congr categories, contains_congr categories,
    accepts_congr included, accepts_congr excluded]

end PreparedConfig

namespace Memory

def Sound (memory : Memory) : Prop :=
  ∀ entry ∈ memory.entries, entry.answer = entry.config.fields.allows entry.rule

variable {memory : Memory} {config : PreparedConfig} {rule : Rule}

theorem answer_sound (sound : memory.Sound) {answer : Bool}
    (found : memory.answer? config rule = some answer) : answer = config.fields.allows rule := by
  obtain ⟨entry, first, rfl⟩ := Option.map_eq_some_iff.mp found
  have same := List.find?_some first
  rw [Bool.and_eq_true] at same
  rw [sound entry (List.mem_of_find?_eq_some first)]
  exact PreparedConfig.fields_allow_alike same.1 same.2

theorem ask_answers (sound : memory.Sound) (made : config.Made) (rule : Rule) :
    (memory.ask config rule).1 = config.fields.allows rule := by
  unfold ask
  cases found : memory.answer? config rule with
  | some answer => exact answer_sound sound found
  | none => exact PreparedConfig.allows_eq made rule

theorem ask_sound (sound : memory.Sound) (made : config.Made) (rule : Rule) :
    (memory.ask config rule).2.Sound := by
  unfold ask
  cases found : memory.answer? config rule with
  | some answer => exact sound
  | none =>
    -- A new entry is found with the filters, which are made from the fields.
    intro entry member
    rcases List.mem_cons.mp member with rfl | earlier
    · exact PreparedConfig.allows_eq made rule
    · exact sound entry earlier

theorem ask_all_answers {calls : List (PreparedConfig × Rule)} (sound : memory.Sound)
    (made : ∀ call ∈ calls, call.1.Made) :
    (memory.askAll calls).1 = calls.map fun call => call.1.fields.allows call.2 := by
  induction calls generalizing memory with
  | nil => rfl
  | cons call calls ih =>
    obtain ⟨config, rule⟩ := call
    obtain ⟨own, others⟩ := List.forall_mem_cons.mp made
    have answer := ask_answers sound own rule
    have later := ih (ask_sound sound own rule) others
    simp only [askAll, List.map_cons, answer, later]

/-- Questions that share one memory are answered as the fields of each configuration allow each rule,
    which is also what the filters it is kept with allow. -/
theorem answers_unremembered (calls : List (PreparedConfig × Rule))
    (made : ∀ call ∈ calls, call.1.Made) :
    (Memory.empty.askAll calls).1 = calls.map (fun call => call.1.fields.allows call.2) ∧
      ∀ call ∈ calls, call.1.allows call.2 = call.1.fields.allows call.2 := by
  have nothing : Memory.empty.Sound := by
    intro entry member
    cases member
  constructor
  · exact ask_all_answers nothing made
  · intro call member
    exact PreparedConfig.allows_eq (made call member) call.2

def sharedCalls : List (PreparedConfig × Rule) :=
  let first := PreparedConfig.ofConfig ⟨.warning, [], ["no-s*", "colon-spacing"], []⟩
  let turned := first.replace ⟨none, none, some ["colon-spacing", "no-s*"], none⟩
  let fewer := turned.replace ⟨none, none, some ["colon-spacing"], none⟩
  [(first, Rule.noSemicolons), (turned, Rule.noSemicolons), (fewer, Rule.noSemicolons),
   (fewer, { Rule.noSemicolons with matcher := Rule.colonSpacing.matcher })]

/-- Two of the four questions are answered from the memory. -/
theorem shared_calls_answered :
    (∀ call ∈ sharedCalls, call.1.Made) ∧
      (empty.askAll sharedCalls).1 = sharedCalls.map (fun call => call.1.fields.allows call.2) ∧
      (empty.askAll sharedCalls).1 = [false, false, true, true] ∧
      (empty.askAll sharedCalls).2.entries.length = 2 := by
  have made : ∀ call ∈ sharedCalls, call.1.Made := by
    have first := PreparedConfig.Made.anew ⟨.warning, [], ["no-s*", "colon-spacing"], []⟩
    have turned := first.changed ⟨none, none, some ["colon-spacing", "no-s*"], none⟩
    have fewer := turned.changed ⟨none, none, some ["colon-spacing"], none⟩
    simp only [sharedCalls, List.forall_mem_cons]
    exact ⟨first, turned, fewer, fewer, List.forall_mem_nil _⟩
  refine ⟨made, (answers_unremembered sharedCalls made).1, ?_, ?_⟩
  all_goals decide

end Memory

end LineLint
