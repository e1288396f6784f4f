import LineLint.Registry
import Mathlib.Data.List.Nodup

/- What becomes of a registry in a series of operations. A rule is appended or refused, a list of rules
   becomes a registry or is refused for the first id that stood in it before, and a selection is a part
   of what was there; nothing else ever changes. So no two rules share an id, and an id finds its rule. -/
namespace LineLint.Registry

inductive Operation where
  | register (rule : Rule)
  | ofRules (rules : List Rule)
  | select (config : Config)

/-- The registry that was asked, as the operation leaves it, and the one to go on with or the fault. -/
structure Performed where
  kept : Registry
  outcome : Except DuplicateRule Registry

def perform (registry : Registry) : Operation → Performed
  | .register rule =>
      match registry.register rule with
      | .ok next => ⟨next, .ok next⟩
      | .error fault => ⟨registry, .error fault⟩
  | .ofRules rules => ⟨registry, ofRules rules⟩
  | .select config => ⟨registry, .ok (registry.select config)⟩

/-- After a fault one goes on with the registry that was asked. -/
def Performed.next (performed : Performed) : Registry :=
  match performed.outcome with
  | .ok next => next
  | .error _ => performed.kept

def after (registry : Registry) : List Operation → Registry
  | [] => registry
  | operation :: rest => (registry.perform operation).next.after rest

/-- The id stands at a place before which no id is repeated, and it is among those. -/
def FirstRepeated (id : String) (ids : List String) : Prop :=
  ∃ front rest, ids = front ++ id :: rest ∧ front.Nodup ∧ id ∈ front

/-- One operation on the rules held: the rules held after it, and those to go on with or the fault. -/
inductive Performs (held : List Rule) :
    Operation → List Rule → Except DuplicateRule (List Rule) → Prop
  | appended {rule : Rule} (fresh : rule.id ∉ held.map Rule.id) :
      Performs held (.register rule) (held ++ [rule]) (.ok (held ++ [rule]))
  | refused {rule : Rule} (taken : rule.id ∈ held.map Rule.id) :
      Performs held (.register rule) held (.error ⟨rule.id⟩)
  | made {rules : List Rule} (distinct : (rules.map Rule.id).Nodup) :
      Performs held (.ofRules rules) held (.ok rules)
  | repeated {rules : List Rule} {id : String} (first : FirstRepeated id (rules.map Rule.id)) :
      Performs held (.ofRules rules) held (.error ⟨id⟩)
  | selected {config : Config} {selection : List Rule} (part : selection.Sublist held)
      (allowed : ∀ rule, rule ∈ selection ↔ rule ∈ held ∧ config.allows rule = true) :
      Performs held (.select config) held (.ok selection)

/-- The rules held at first, a series of operations, and the rules held in the end. -/
inductive Evolves : List Rule → List Operation → List Rule → Prop
  | done (held : List Rule) : Evolves held [] held
  | goesOn {held kept next last : List Rule} {operation : Operation} {rest : List Operation}
      (performs : Performs held operation kept (.ok next)) (later : Evolves next rest last) :
      Evolves held (operation :: rest) last
  | fails {held kept last : List Rule} {operation : Operation} {rest : List Operation}
      {fault : DuplicateRule} (performs : Performs held operation kept (.error fault))
      (later : Evolves kept rest last) : Evolves held (operation :: rest) last

theorem eq_of_rules {registry other : Registry} (same : registry.rules = other.rules) :
    registry = other := by
  cases registry
  cases other
  cases same
  rfl

theorem first_repeated_not_nodup {id : String} {ids : List String}
    (first : FirstRepeated id ids) : ¬ ids.Nodup := by
  obtain ⟨front, rest, rfl, _, among⟩ := first
  intro distinct
  have apart := (List.nodup_append.mp distinct).2.2
  exact apart id among id List.mem_cons_self rfl

theorem first_repeated_unique {id id' : String} {ids : List String}
    (first : FirstRepeated id ids) (first' : FirstRepeated id' ids) : id = id' := by
  obtain ⟨front, rest, whole, distinct, among⟩ := first
  obtain ⟨front', rest', whole', distinct', among'⟩ := first'
  -- The longer of two fronts would hold the id at the end of the shorter one twice.
  rcases List.append_eq_append_iff.mp (whole.symm.trans whole') with
    ⟨between, longer, meet⟩ | ⟨between, longer, meet⟩
  · cases between with
    | nil => exact (List.cons.inj meet).1
    | cons x more =>
      obtain ⟨rfl, _⟩ := List.cons.inj meet
      exact absurd distinct' (first_repeated_not_nodup ⟨front, more, longer, distinct, among⟩)
  · cases between with
    | nil => exact (List.cons.inj meet).1.symm
    | cons x more =>
      obtain ⟨rfl, _⟩ := List.cons.inj meet
      exact absurd distinct (first_repeated_not_nodup ⟨front', more, longer, distinct', among'⟩)

theorem register_fresh {registry : Registry} {rule : Rule}
    (fresh : rule.id ∉ registry.rules.map Rule.id) :
    ∃ next, registry.register rule = .ok next ∧ next.rules = registry.rules ++ [rule] := by
  unfold register
  rw [dif_neg fresh]
  exact ⟨_, rfl, rfl⟩

theorem register_taken {registry : Registry} {rule : Rule}
    (taken : rule.id ∈ registry.rules.map Rule.id) :
    registry.register rule = .error ⟨rule.id⟩ := by
  unfold register
  rw [dif_pos taken]

theorem register_all_cases (registry : Registry) (rules : List Rule) :
    (∃ made, registry.registerAll rules = .ok made ∧ made.rules = registry.rules ++ rules) ∨
    ∃ id front rest, registry.registerAll rules = .error ⟨id⟩ ∧
      rules.map Rule.id = front ++ id :: rest ∧ (registry.ids ++ front).Nodup ∧
      id ∈ registry.ids ++ front := by
  induction rules generalizing registry with
  | nil => exact .inl ⟨registry, rfl, (List.append_nil _).symm⟩
  | cons rule rules ih =>
    by_cases taken : rule.id ∈ registry.rules.map Rule.id
    · right
      refine ⟨rule.id, [], rules.map Rule.id, ?_, rfl, ?_, ?_⟩
      · rw [registerAll, register_taken taken]
      · rw [List.append_nil]
        exact registry.distinct
      · rw [List.append_nil]
        exact taken
    · obtain ⟨next, registered, held⟩ := register_fresh taken
      have ids : next.ids = registry.ids ++ [rule.id] := by
        rw [Registry.ids, held, List.map_append]
        rfl
      rw [registerAll, registered]
      rcases ih next with ⟨made, all, rules⟩ | ⟨id, front, rest, failed, whole, distinct, among⟩
      · left
        refine ⟨made, all, ?_⟩
        rw [rules, held, List.append_assoc]
        rfl
      · right
        rw [ids, List.append_assoc] at distinct among
        refine ⟨id, rule.id :: front, rest, failed, ?_, distinct, among⟩
        rw [List.map_cons, whole]
        rfl

theorem of_rules_cases (rules : List Rule) :
    (∃ made, ofRules rules = .ok made ∧ made.rules = rules) ∨
      ∃ id, ofRules rules = .error ⟨id⟩ ∧ FirstRepeated id (rules.map Rule.id) := by
  rcases register_all_cases empty rules with ⟨made, all, held⟩ |
    ⟨id, front, rest, failed, whole, distinct, among⟩
  · exact .inl ⟨made, all, held⟩
  · exact .inr ⟨id, failed, front, rest, whole, distinct, among⟩

theorem of_rules_select (registry : Registry) (config : Config) :
    ofRules (registry.rules.filter config.allows) = .ok (registry.select config) := by
  rcases of_rules_cases (registry.rules.filter config.allows) with
    ⟨made, all, held⟩ | ⟨id, _, repeated⟩
  · exact all.trans (congrArg Except.ok (eq_of_rules held))
  · exact absurd (registry.select config).distinct (first_repeated_not_nodup repeated)

theorem of_rules_fails_iff (rules : List Rule) (id : String) :
    ofRules rules = .error ⟨id⟩ ↔ FirstRepeated id (rules.map Rule.id) := by
  rcases of_rules_cases rules with ⟨made, all, held⟩ | ⟨id', failed, first⟩
  · have distinct := made.distinct
    rw [held] at distinct
    rw [all]
    exact iff_of_false (by simp) fun repeated => first_repeated_not_nodup repeated distinct
  · rw [failed]
    constructor
    · intro same
      cases same
      exact first
    · intro repeated
      rw [first_repeated_unique first repeated]

theorem of_rules_makes_iff (rules : List Rule) :
    (∃ made, ofRules rules = .ok made ∧ made.rules = rules) ↔ (rules.map Rule.id).Nodup := by
  constructor
  · rintro ⟨made, _, rfl⟩
    exact made.distinct
  · intro distinct
    rcases of_rules_cases rules with made | ⟨id, _, first⟩
    · exact made
    · exact absurd distinct (first_repeated_not_nodup first)

theorem perform_performs (registry : Registry) (operation : Operation) :
    Performs registry.rules operation (registry.perform operation).kept.rules
      ((registry.perform operation).outcome.map Registry.rules) := by
  cases operation with
  | register rule =>
    by_cases taken : rule.id ∈ registry.rules.map Rule.id
    · rw [perform, register_taken taken]
      exact .refused taken
    · obtain ⟨next, registered, held⟩ := register_fresh taken
      rw [perform, registered]
      show Performs registry.rules (.register rule) next.rules (.ok next.rules)
      rw [held]
      exact .appended taken
  | ofRules rules =>
    rcases of_rules_cases rules with made | ⟨id, failed, first⟩
    · have distinct := (of_rules_makes_iff rules).mp made
      obtain ⟨made, all, held⟩ := made
      rw [perform, all]
      show Performs registry.rules (.ofRules rules) registry.rules (.ok made.rules)
      rw [held]
      exact .made distinct
    · rw [perform, failed]
      exact .repeated first
  | select config =>
    refine .selected List.filter_sublist ?_
    intro rule
    exact List.mem_filter

theorem after_evolves (registry : Registry) (operations : List Operation) :
    Evolves registry.rules operations (registry.after operations).rules := by
  induction operations generalizing registry with
  | nil => exact .done _
  | cons operation rest ih =>
    have performs := perform_performs registry operation
    have later := ih (registry.perform operation).next
    rw [Performed.next] at later
    rw [after, Performed.next]
    cases outcome : (registry.perform operation).outcome with
    | ok next =>
      rw [outcome] at performs later
      exact .goesOn performs later
    | error fault =>
      rw [outcome] at performs later
      exact .fails performs later

theorem performs_distinct {held kept : List Rule} {operation : Operation}
    {outcome : Except DuplicateRule (List Rule)}
    (performs : Performs held operation kept outcome) (distinct : (held.map Rule.id).Nodup) :
    (kept.map Rule.id).Nodup ∧ ∀ next, outcome = .ok next → (next.map Rule.id).Nodup := by
  cases performs with
  | appended fresh =>
    have more := nodup_append_one distinct fresh
    rw [List.map_append]
    refine ⟨more, ?_⟩
    intro next going
    rw [← Except.ok.inj going, List.map_append]
    exact more
  | refused taken => exact ⟨distinct, by rintro next ⟨⟩⟩
  | made own => exact ⟨distinct, by rintro next ⟨⟩; exact own⟩
  | repeated first => exact ⟨distinct, by rintro next ⟨⟩⟩
  | selected part allowed =>
    refine ⟨distinct, ?_⟩
    rintro next ⟨⟩
    exact (part.map Rule.id).nodup distinct

theorem evolves_distinct {held last : List Rule} {operations : List Operation}
    (evolves : Evolves held operations last) (distinct : (held.map Rule.id).Nodup) :
    (last.map Rule.id).Nodup := by
  induction evolves with
  | done held => exact distinct
  | goesOn performs later ih => exact ih ((performs_distinct performs distinct).2 _ rfl)
  | fails performs later ih => exact ih (performs_distinct performs distinct).1

theorem get_eq_some_iff (registry : Registry) (id : String) (rule : Rule) :
    registry.get? id = some rule ↔ rule ∈ registry.rules ∧ rule.id = id := by
  unfold get?
  constructor
  · intro found
    have same := List.find?_some found
    exact ⟨List.mem_of_find?_eq_some found, of_decide_eq_true same⟩
  · rintro ⟨member, rfl⟩
    cases found : registry.rules.find? fun other => other.id = rule.id with
    | none =>
      have none := List.find?_eq_none.mp found rule member
      exact absurd (decide_eq_true rfl) none
    | some other =>
      have among := List.mem_of_find?_eq_some found
      have same := List.find?_some found
      have one := List.inj_on_of_nodup_map registry.distinct among member (of_decide_eq_true same)
      exact congrArg some one

theorem get_is_some (registry : Registry) (id : String) :
    (registry.get? id).isSome = registry.contains id := by
  rw [Bool.eq_iff_iff, contains, List.contains_iff_mem, Option.isSome_iff_exists]
  constructor
  · rintro ⟨rule, found⟩
    obtain ⟨member, rfl⟩ := (get_eq_some_iff registry id rule).mp found
    exact List.mem_map_of_mem member
  · intro held
    obtain ⟨rule, member, same⟩ := List.mem_map.mp held
    exact ⟨rule, (get_eq_some_iff registry id rule).mpr ⟨member, same⟩⟩

/-- The views of a registry agree: no id is held twice, and an id that is held finds its one rule. -/
structure Consistent (registry : Registry) : Prop where
  distinct : registry.ids.Nodup
  listed : registry.ids = registry.rules.map Rule.id ∧ registry.size = registry.rules.length
  found : ∀ id rule, registry.get? id = some rule ↔ rule ∈ registry.rules ∧ rule.id = id
  contained : ∀ id, (registry.get? id).isSome = registry.contains id

/-- After any series of operations from the empty registry, the rules held are those that the series
    leads to, the views agree, and whatever operation follows does what it does to the rules held. A
    list of rules is refused for its first repeated id, and only then. -/
theorem history_consistent (operations : List Operation) :
    Evolves [] operations (empty.after operations).rules ∧
    (empty.after operations).Consistent ∧
    (∀ operation, Performs (empty.after operations).rules operation
      ((empty.after operations).perform operation).kept.rules
      (((empty.after operations).perform operation).outcome.map Registry.rules)) ∧
    ∀ rules,
      ((∃ made, ofRules rules = .ok made ∧ made.rules = rules) ↔ (rules.map Rule.id).Nodup) ∧
      ∀ id, ofRules rules = .error ⟨id⟩ ↔ FirstRepeated id (rules.map Rule.id) := by
  have evolves := after_evolves empty operations
  refine ⟨evolves, ?_, perform_performs (empty.after operations), ?_⟩
  · constructor
    · exact evolves_distinct evolves List.nodup_nil
    · exact ⟨rfl, rfl⟩
    · exact get_eq_some_iff (empty.after operations)
    · exact get_is_some (empty.after operations)
  · intro rules
    exact ⟨of_rules_makes_iff rules, of_rules_fails_iff rules⟩

end LineLint.Registry
