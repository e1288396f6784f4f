import LineLint.Proofs.Text.Numbers
import LineLint.Report.Catalogue
import Mathlib.Algebra.Ring.Nat
import Mathlib.Data.List.Induction
import Mathlib.Data.List.Nodup

/- The groups of a list of rules. There is one for each text that rules have as their group, in the order
   in which these first appear, and it holds the rules that have it, in their order. Around the texts of
   the rules the catalogue writes no control characters. -/
namespace LineLint

def groupNames (rules : List Rule) : List String :=
  (rules.map fun rule => rule.group.text).eraseDups

def membersOf (rules : List Rule) (name : String) : List Rule :=
  rules.filter fun rule => rule.group.text = name

section

variable {rules : List Rule} {rule : Rule} {name : String}

theorem group_names_mem_iff : name ∈ groupNames rules ↔ ∃ rule ∈ rules, rule.group.text = name := by
  rw [groupNames, List.mem_eraseDups, List.mem_map]

theorem erase_dups_append_one {texts : List String} {text : String} :
    (texts ++ [text]).eraseDups =
      if text ∈ texts then texts.eraseDups else texts.eraseDups ++ [text] := by
  rw [List.eraseDups_append]
  split
  · simp_all [List.removeAll]
  · simp_all [List.removeAll, List.eraseDups_cons]

theorem group_names_append : groupNames (rules ++ [rule]) =
    if rule.group.text ∈ groupNames rules then groupNames rules
    else groupNames rules ++ [rule.group.text] := by
  simp only [groupNames, List.mem_eraseDups]
  rw [List.map_append, List.map_singleton, erase_dups_append_one]

theorem group_names_nodup : (groupNames rules).Nodup := by
  induction rules using List.reverseRecOn with
  | nil => exact List.nodup_nil
  | append_singleton rules rule ih =>
    rw [group_names_append]
    split
    · exact ih
    · rename_i new
      exact ih.append (List.nodup_singleton _) (List.disjoint_singleton.mpr new)

theorem members_append : membersOf (rules ++ [rule]) name =
    if rule.group.text = name then membersOf rules name ++ [rule] else membersOf rules name := by
  rw [membersOf, List.filter_append, List.filter_singleton]
  split
  · simp_all [membersOf]
  · simp_all [membersOf]

theorem members_nil (new : name ∉ groupNames rules) : membersOf rules name = [] := by
  rw [membersOf, List.filter_eq_nil_iff]
  intro rule listed named
  exact new (group_names_mem_iff.mpr ⟨rule, listed, of_decide_eq_true named⟩)

theorem add_to_groups {names : List String} (distinct : names.Nodup) (members : String → List Rule) :
    addToGroup rule (names.map fun name => (name, members name)) =
      if rule.group.text ∈ names then
        names.map fun name =>
          (name, if rule.group.text = name then members name ++ [rule] else members name)
      else names.map (fun name => (name, members name)) ++ [(rule.group.text, [rule])] := by
  induction names with
  | nil => rfl
  | cons first names ih =>
    obtain ⟨single, distinct⟩ := List.nodup_cons.mp distinct
    rw [List.map_cons, addToGroup]
    by_cases here : first = rule.group.text
    · subst here
      have others : names.map (fun name => (name, if rule.group.text = name then
          members name ++ [rule] else members name)) = names.map fun name => (name, members name) := by
        refine List.map_congr_left fun name member => ?_
        rw [if_neg (ne_of_mem_of_not_mem member single).symm]
      simp [others]
    · rw [if_neg here, ih distinct]
      by_cases later : rule.group.text ∈ names
      · simp [later, Ne.symm here]
      · simp [later, Ne.symm here]

theorem grouped_eq (rules : List Rule) :
    grouped rules = (groupNames rules).map fun name => (name, membersOf rules name) := by
  induction rules using List.reverseRecOn with
  | nil => rfl
  | append_singleton rules rule ih =>
    have step : grouped (rules ++ [rule]) = addToGroup rule (grouped rules) := List.foldl_append
    rw [step, ih, add_to_groups group_names_nodup, group_names_append]
    simp only [members_append]
    split
    · rfl
    · rename_i new
      have others : ∀ name ∈ groupNames rules, rule.group.text ≠ name := fun name member =>
        (ne_of_mem_of_not_mem member new).symm
      rw [List.map_append, List.map_singleton, if_pos rfl, members_nil new, List.nil_append]
      congr 1
      exact List.map_congr_left fun name member => by rw [if_neg (others name member)]

theorem add_to_group_perm (groups : List (String × List Rule)) :
    ((addToGroup rule groups).flatMap Prod.snd).Perm (rule :: groups.flatMap Prod.snd) := by
  induction groups with
  | nil => exact .refl _
  | cons first groups ih =>
    rw [addToGroup]
    split
    · simp
    · exact (ih.append_left first.2).trans List.perm_middle

theorem grouped_perm (rules : List Rule) : ((grouped rules).flatMap Prod.snd).Perm rules := by
  induction rules using List.reverseRecOn with
  | nil => exact .refl _
  | append_singleton rules rule ih =>
    have step : grouped (rules ++ [rule]) = addToGroup rule (grouped rules) := List.foldl_append
    rw [step]
    exact (add_to_group_perm _).trans ((ih.cons rule).trans (List.perm_append_singleton rule rules).symm)

theorem grouped_sizes (rules : List Rule) :
    ((grouped rules).map fun group => group.2.length).sum = rules.length := by
  rw [← List.length_flatMap]
  exact (grouped_perm rules).length_eq

theorem grouped_mem {group : String × List Rule} (member : group ∈ grouped rules) :
    (∃ rule ∈ rules, group.1 = rule.group.text) ∧ ∀ rule ∈ group.2, rule ∈ rules := by
  rw [grouped_eq] at member
  obtain ⟨name, named, rfl⟩ := List.mem_map.mp member
  obtain ⟨rule, listed, same⟩ := group_names_mem_iff.mp named
  exact ⟨⟨rule, listed, same.symm⟩, fun rule inGroup => List.mem_of_mem_filter inGroup⟩

end

section Texts

variable {c : Char} (control : c.toNat < 0x20)

include control

theorem printed_lacks {text : String} (printed : text.toList.all fun d => 0x20 ≤ d.toNat) :
    c ∉ text.toList := by
  intro member
  have high : 0x20 ≤ c.toNat := of_decide_eq_true (List.all_eq_true.mp printed c member)
  exact absurd control (Nat.not_lt.mpr high)

theorem number_lacks (n : Nat) : c ∉ (toString n).toList := by
  have symbol : c.isDigit = false := by
    rw [Bool.eq_false_iff]
    intro digit
    have high : '0'.toNat ≤ c.toNat := (of_decide_eq_true (Bool.and_eq_true_iff.mp digit).1)
    exact absurd control (Nat.not_lt.mpr (Nat.le_trans (by decide) high))
  rw [Nat.toString_eq_ofList_toDigits, String.toList_ofList]
  exact Text.symbol_not_digit symbol n

theorem fill_lacks (n : Nat) {d : Char} (printed : 0x20 ≤ d.toNat) :
    c ∉ (String.ofList (List.replicate n d)).toList := by
  rw [String.toList_ofList]
  intro member
  rw [List.eq_of_mem_replicate member] at control
  exact absurd control (Nat.not_lt.mpr printed)

theorem padded_lacks (width : Nat) {text : String} (lacks : c ∉ text.toList) :
    c ∉ (padRight width text).toList := by
  rw [padRight, String.toList_append, List.mem_append, not_or]
  exact ⟨lacks, fill_lacks control _ (by decide)⟩

theorem severity_lacks (severity : Severity) : c ∉ severity.name.toList := by
  cases severity <;> exact printed_lacks control (by decide)

theorem group_title_lacks {group : String} (lacks : c ∉ group.toList) :
    c ∉ (groupTitle group).toList := by
  unfold groupTitle
  split
  case h_1 category _ => cases category <;> exact printed_lacks control (by decide)
  case h_2 =>
    split
    · exact printed_lacks control (by decide)
    · exact lacks

theorem group_header_lacks {group : String} (lacks : c ∉ group.toList) (count : Nat) :
    c ∉ (groupHeader group count).toList := by
  have title := group_title_lacks control lacks
  simp only [groupHeader, String.toList_append, List.mem_append, not_or]
  exact ⟨⟨⟨⟨⟨printed_lacks control (by decide), title⟩, printed_lacks control (by decide)⟩,
    number_lacks control count⟩, printed_lacks control (by decide)⟩, fill_lacks control _ (by decide)⟩

theorem catalogue_header_lacks (count : Nat) (total : Option Nat) :
    c ∉ (catalogueHeader count total).toList := by
  have front : c ∉ ("stylint " ++ version ++ " - ").toList := printed_lacks control (by decide)
  simp only [catalogueHeader, String.toList_append, List.mem_append, not_or] at front ⊢
  refine ⟨⟨⟨front, number_lacks control count⟩, printed_lacks control (by decide)⟩, ?_⟩
  cases total with
  | none => exact List.not_mem_nil
  | some total =>
    dsimp only
    split
    · exact List.not_mem_nil
    · simp only [String.toList_append, List.mem_append, not_or]
      exact ⟨⟨printed_lacks control (by decide), number_lacks control total⟩,
        printed_lacks control (by decide)⟩

end Texts

end LineLint
