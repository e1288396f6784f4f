import LineLint.Config
import LineLint.Scan

/- Registries: rules with distinct ids, in the order in which they were registered. -/
namespace LineLint

structure Registry where
  rules : List Rule
  distinct : (rules.map Rule.id).Nodup

structure DuplicateRule where
  id : String
  deriving DecidableEq, Repr

def DuplicateRule.message (fault : DuplicateRule) : String := "Duplicate rule ID: " ++ fault.id

namespace Registry

def empty : Registry := ⟨[], List.nodup_nil⟩

def ids (registry : Registry) : List String := registry.rules.map Rule.id

def size (registry : Registry) : Nat := registry.rules.length

def contains (registry : Registry) (id : String) : Bool := registry.ids.contains id

def get? (registry : Registry) (id : String) : Option Rule :=
  registry.rules.find? fun rule => rule.id = id

theorem nodup_append_one {ids : List String} {id : String} (distinct : ids.Nodup)
    (fresh : id ∉ ids) : (ids ++ [id]).Nodup := by
  rw [List.nodup_append]
  refine ⟨distinct, List.pairwise_singleton _ id, ?_⟩
  intro a member b last same
  rw [List.mem_singleton] at last
  subst last
  exact fresh (same ▸ member)

def register (registry : Registry) (rule : Rule) : Except DuplicateRule Registry :=
  if taken : rule.id ∈ registry.rules.map Rule.id then .error ⟨rule.id⟩
  else
    .ok ⟨registry.rules ++ [rule], by
      rw [List.map_append]
      exact nodup_append_one registry.distinct taken⟩

def registerAll (registry : Registry) : List Rule → Except DuplicateRule Registry
  | [] => .ok registry
  | rule :: rest =>
      match registry.register rule with
      | .ok next => next.registerAll rest
      | .error fault => .error fault

def ofRules (rules : List Rule) : Except DuplicateRule Registry := empty.registerAll rules

def select (registry : Registry) (config : Config) : Registry :=
  ⟨registry.rules.filter config.allows,
    List.Sublist.nodup (List.Sublist.map Rule.id List.filter_sublist) registry.distinct⟩

def describe (registry : Registry) : String :=
  "RuleRegistry([" ++ Value.commaSeparated (registry.ids.map Text.quoted) ++ "])"

def builtin : Registry := ⟨Rule.builtin, by decide⟩

end Registry

end LineLint
