import LineLint.Text.Order
import Mathlib.Data.List.Sort
import Mathlib.Data.String.Basic

/- Sets of texts listed in ascending order. Such a list is known by its members alone. -/
namespace LineLint.Text

theorem precedes_iff_lt (as bs : List Char) : precedes as bs = true ↔ as < bs := by
  induction as generalizing bs with
  | nil => cases bs <;> simp [precedes]
  | cons a as ih =>
    cases bs with
    | nil => simp [precedes]
    | cons b bs =>
      have order (c d : Char) : c.toNat < d.toNat ↔ c < d := Iff.rfl
      simp only [precedes, order, List.cons_lt_cons_iff, ← ih]
      rcases lt_trichotomy a b with less | same | more
      · simp [less]
      · simp [same]
      · simp [more, more.not_gt, more.ne']

theorem insert_name_ascending (name : String) {names : List String}
    (ascending : names.Pairwise (· < ·)) : (insertName name names).Pairwise (· < ·) := by
  induction ascending with
  | nil => exact List.pairwise_singleton _ _
  | @cons other rest above ascending ih =>
    simp only [insertName, precedes_iff_lt, ← String.lt_iff_toList_lt]
    split
    · rename_i before
      refine .cons (fun member among => ?_) ih
      rcases (mem_insertName name member rest).mp among with rfl | later
      · exact before
      · exact above member later
    · rename_i behind
      split
      · exact .cons above ascending
      · rename_i apart
        have first : name < other := lt_of_le_of_ne (not_lt.mp behind) (Ne.symm apart)
        refine .cons (fun member among => ?_) (.cons above ascending)
        rcases List.mem_cons.mp among with rfl | later
        · exact first
        · exact first.trans (above member later)

theorem sorted_names_ascending (names : List String) : (sortedNames names).Pairwise (· < ·) := by
  induction names with
  | nil => exact .nil
  | cons name names ih => exact insert_name_ascending name ih

theorem sorted_names_eq_iff (names listed : List String) :
    sortedNames names = listed ↔
      listed.Pairwise (· < ·) ∧ ∀ name, name ∈ listed ↔ name ∈ names := by
  constructor
  · rintro rfl
    exact ⟨sorted_names_ascending names, fun name => mem_sortedNames name names⟩
  · rintro ⟨ascending, members⟩
    refine (sorted_names_ascending names).eq_of_mem_iff ascending fun name => ?_
    rw [mem_sortedNames, members]

end LineLint.Text
