import LineLint.Template.Fill
import Mathlib.Data.List.TakeWhile

/- Filling placeholders. A placeholder that holds a name and nothing else stands for the value of
   the name, as it is; what stands around it stays. -/
namespace LineLint.Template

def IsName (name : List Char) : Prop :=
  name.head?.any (fun c => (Text.decimalDigit? c).isNone) ∧ name.all fun c => !isStep c

instance : DecidablePred IsName := fun _ => inferInstanceAs (Decidable (_ ∧ _))

theorem name_begins {name : List Char} (isName : IsName name) :
    ∃ c rest, name = c :: rest ∧ Text.decimalDigit? c = none := by
  obtain ⟨c, head, noDigit⟩ := (Option.any_eq_true _ _).mp isName.1
  obtain ⟨rest, rfl⟩ := List.head?_eq_some_iff.mp head
  exact ⟨c, rest, rfl, Option.isNone_iff_eq_none.mp noDigit⟩

def placeholder (name : List Char) : Field := ⟨name, none, []⟩

theorem name_whole {name : List Char} (isName : IsName name) :
    name.takeWhile (fun c => !isStep c) = name ∧ name.dropWhile (fun c => !isStep c) = [] := by
  have steps := List.all_eq_true.mp isName.2
  exact ⟨List.takeWhile_eq_self_iff.mpr steps, List.dropWhile_eq_nil_iff.mpr steps⟩

theorem name_no_number {name : List Char} (isName : IsName name) :
    wholeNumber? name = .ok none := by
  obtain ⟨c, rest, rfl, noDigit⟩ := name_begins isName
  simp [wholeNumber?, readNumber, noDigit]

theorem resolve_name (values : Values) {name : List Char} (isName : IsName name) :
    resolve values name = .ok (.text (values.get name)) := by
  obtain ⟨whole, noSteps⟩ := name_whole isName
  have nonempty : name.isEmpty = false := by
    obtain ⟨c, rest, rfl, _⟩ := name_begins isName
    rfl
  simp [resolve, whole, noSteps, name_no_number isName, nonempty, follow]

theorem fill_placeholder (nested : List Char → Except Fault (List Char)) (values : Values)
    {name : List Char} (isName : IsName name) :
    fillField nested values (placeholder name) = .ok (values.get name) := by
  simp only [fillField, placeholder, resolve_name values isName]
  rfl

theorem fill_plain (nested : List Char → Except Fault (List Char)) (values : Values)
    (cs : List Char) (pieces : List Piece) :
    fillPieces nested values (cs.map .plain ++ pieces) =
      (fillPieces nested values pieces).map (cs ++ ·) := by
  induction cs with
  | nil => cases h : fillPieces nested values pieces <;> simp [h, Except.map]
  | cons c cs ih =>
    simp only [List.map_cons, List.cons_append, fillPieces, ih]
    cases fillPieces nested values pieces <;> rfl

theorem fill_to_succ {depth : Nat} {values : Values} {cs : List Char} {parts : List Piece}
    (sound : pieces cs = (parts, none)) :
    fillTo (depth + 1) values cs = fillPieces (fillTo depth values) values parts := by
  rw [fillTo, sound]
  cases h : fillPieces (fillTo depth values) values parts <;>
    simp only [h, bind, Except.bind]

theorem fill_single (values : Values) {template : String} {name front back : List Char}
    (isName : IsName name)
    (parts : pieces template.toList =
      (front.map .plain ++ .field (placeholder name) :: back.map .plain, none)) :
    fill values template = .ok (String.ofList (front ++ values.get name ++ back)) := by
  have last : fillPieces (fillTo 1 values) values (back.map .plain) = .ok back := by
    simpa [fillPieces, Except.map] using fill_plain (fillTo 1 values) values back []
  have shown : fillPieces (fillTo 1 values) values (.field (placeholder name) :: back.map .plain) =
      .ok (values.get name ++ back) := by
    simp only [fillPieces, fill_placeholder _ values isName, last]
    rfl
  rw [fill, fill_to_succ parts, fill_plain, shown, List.append_assoc]
  rfl

end LineLint.Template
