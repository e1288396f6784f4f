import LineLint.Proofs.Template.Parts
import LineLint.Rule.Builtin

/- Messages of rules whose summaries are written out of parts. A hit with parameters has each of them
   put in as it is; a hit without any leaves the summary as it is written. -/
namespace LineLint

namespace Template

theorem placeholder_shown (values : Values) (i : Identifier) :
    (Part.placeholder i).shown values = values.get i.name := by
  rw [Part.shown, Values.get]
  cases values.lookup (String.ofList i.name) <;> rfl

theorem fill_part (nested : List Char → Except Fault (List Char)) (values : Values) (part : Part)
    (more : List Piece) :
    fillPieces nested values (part.pieces ++ more) =
      (fillPieces nested values more).map (part.shown values ++ ·) := by
  cases part with
  | text cs => exact fill_plain nested values cs more
  | placeholder i =>
    have field := fill_placeholder nested values (identifier_is_name i)
    rw [placeholder_shown]
    show fillPieces nested values (.field (placeholder i.name) :: more) = _
    simp only [fillPieces, field]
    cases fillPieces nested values more <;> rfl

theorem fill_parts (nested : List Char → Except Fault (List Char)) (values : Values)
    (parts : List Part) :
    fillPieces nested values (parts.flatMap Part.pieces) = .ok (shown values parts) := by
  induction parts with
  | nil => rfl
  | cons part parts ih =>
    rw [List.flatMap_cons, fill_part, ih]
    rfl

theorem fill_written (values : Values) {template : String} {parts : List Part}
    (whole : template.toList = written parts) :
    fill values template = .ok (String.ofList (shown values parts)) := by
  have read : pieces template.toList = (parts.flatMap Part.pieces, none) := by
    rw [whole]
    exact pieces_written parts
  rw [fill, fill_to_succ read, fill_parts]
  rfl

/-- Parts whose texts hold no brace, so that none has to be doubled. -/
def BraceFree (parts : List Part) : Prop :=
  ∀ cs, Part.text cs ∈ parts → '{' ∉ cs ∧ '}' ∉ cs

theorem doubled_free {cs : List Char} (noOpening : '{' ∉ cs) (noClosing : '}' ∉ cs) :
    cs.flatMap doubled = cs := by
  induction cs with
  | nil => rfl
  | cons c cs ih =>
    simp only [List.mem_cons, not_or] at noOpening noClosing
    have single : doubled c = [c] := by
      simp [doubled, Ne.symm noOpening.1, Ne.symm noClosing.1]
    rw [List.flatMap_cons, single, ih noOpening.2 noClosing.2]
    rfl

theorem texts_written {parts : List Part} (free : BraceFree parts) (values : Values)
    (texts : ∀ part ∈ parts, part.isText = true) : written parts = shown values parts := by
  induction parts with
  | nil => rfl
  | cons part parts ih =>
    obtain ⟨first, others⟩ := List.forall_mem_cons.mp texts
    have later := ih (fun cs member => free cs (List.mem_cons_of_mem part member)) others
    cases part with
    | placeholder i => cases first
    | text cs =>
      obtain ⟨noOpening, noClosing⟩ := free cs List.mem_cons_self
      have here : (Part.text cs).written = (Part.text cs).shown values :=
        doubled_free noOpening noClosing
      rw [written, shown, List.flatMap_cons, List.flatMap_cons, here]
      exact congrArg _ later

theorem brace_not_shown {parts : List Part} (free : BraceFree parts) : '{' ∉ shown [] parts := by
  intro member
  obtain ⟨part, among, brace⟩ := List.mem_flatMap.mp member
  cases part with
  | text cs => exact (free cs among).1 brace
  | placeholder i => cases brace

theorem brace_written {parts : List Part} {part : Part} (member : part ∈ parts)
    (isPlaceholder : part.isText = false) : '{' ∈ written parts := by
  cases part with
  | text cs => cases isPlaceholder
  | placeholder i => exact List.mem_flatMap.mpr ⟨_, member, List.mem_cons_self⟩

end Template

open Template

theorem render_empty (rule : Rule) {hit : Hit} (nothing : hit.params = []) :
    rule.render hit = .ok rule.summary := by
  rw [Rule.render, nothing]
  rfl

theorem render_filled (rule : Rule) {hit : Hit} (some : hit.params ≠ []) :
    rule.render hit = fill hit.params rule.summary := by
  rw [Rule.render, if_neg (by simpa using some)]

/-- A hit with parameters is told by the texts of the summary with single braces and, between them, the
    value of each name as it is, or nothing where the name has none. -/
theorem summary_filled (rule : Rule) {parts : List Part}
    (whole : rule.summary.toList = written parts) {hit : Hit} (some : hit.params ≠ []) :
    rule.render hit = .ok (String.ofList (shown hit.params parts)) := by
  rw [render_filled rule some, fill_written hit.params whole]

def nameIdentifier : Identifier := ⟨'n', ['a', 'm', 'e'], rfl, List.all_eq_true.mp rfl⟩

def kindIdentifier : Identifier := ⟨'_', ['k', '2'], rfl, List.all_eq_true.mp rfl⟩

/-- Braces on both sides of a placeholder and between two, a value that looks like a placeholder, and a
    name without a value. -/
theorem braces_around_placeholders_filled :
    let rule := { Rule.noForceTry with summary := "\x7b\x7b\x7bname\x7d\x7d\x7d\x7b_k2\x7d\x7b\x7b" }
    let parts : List Part :=
      [.text ['{'], .placeholder nameIdentifier, .text ['}'], .placeholder kindIdentifier, .text ['{']]
    let hit : Hit := ⟨none, [("name", "\x7b_k2\x7d")]⟩
    rule.summary.toList = written parts ∧ hit.params ≠ [] ∧
      rule.render hit = .ok (String.ofList (shown hit.params parts)) ∧
      String.ofList (shown hit.params parts) = "\x7b\x7b_k2\x7d\x7d\x7b" := by
  have whole : "\x7b\x7b\x7bname\x7d\x7d\x7d\x7b_k2\x7d\x7b\x7b".toList = written
      [.text ['{'], .placeholder nameIdentifier, .text ['}'], .placeholder kindIdentifier,
        .text ['{']] := by decide
  refine ⟨whole, List.cons_ne_nil _ _, summary_filled _ whole (List.cons_ne_nil _ _), ?_⟩
  decide

/-- A hit without parameters is told by the summary as it is written. That is what filling makes of it
    exactly if the summary has no placeholder; filling would leave out every placeholder. -/
theorem empty_hit_rendered (rule : Rule) {parts : List Part} (free : BraceFree parts)
    (whole : rule.summary.toList = written parts) {hit : Hit} (nothing : hit.params = []) :
    rule.render hit = .ok rule.summary ∧
      fill hit.params rule.summary = .ok (String.ofList (shown [] parts)) ∧
      (rule.render hit = fill hit.params rule.summary ↔ ∀ part ∈ parts, part.isText = true) := by
  have rendered := render_empty rule nothing
  have filled : fill hit.params rule.summary = .ok (String.ofList (shown [] parts)) := by
    rw [nothing]
    exact fill_written [] whole
  refine ⟨rendered, filled, ?_⟩
  rw [rendered, filled]
  constructor
  · intro same part member
    rw [← Bool.not_eq_false]
    intro isPlaceholder
    have texts : written parts = shown [] parts := by
      rw [← whole, Except.ok.inj same, String.toList_ofList]
    apply brace_not_shown free
    rw [← texts]
    exact brace_written member isPlaceholder
  · intro texts
    rw [← texts_written free [] texts, ← whole, String.ofList_toList]

def foundName : List Part := [.text ['f', 'o', 'u', 'n', 'd', ' '], .placeholder nameIdentifier]

theorem found_name_rendered :
    let rule := { Rule.noForceTry with summary := "found \x7bname\x7d" }
    let hit : Hit := ⟨some 3, []⟩
    BraceFree foundName ∧ rule.summary.toList = written foundName ∧ hit.params = [] ∧
      rule.render hit = .ok rule.summary ∧ fill hit.params rule.summary = .ok "found " ∧
      ¬ rule.render hit = fill hit.params rule.summary := by
  have free : BraceFree foundName := by
    intro cs member
    simp only [foundName, List.mem_cons, List.not_mem_nil, or_false, Part.text.injEq,
      reduceCtorEq] at member
    rw [member]
    decide
  have whole : "found \x7bname\x7d".toList = written foundName := by decide
  have nothing : (Hit.mk (some 3) []).params = [] := rfl
  obtain ⟨rendered, filled, same⟩ := empty_hit_rendered
    { Rule.noForceTry with summary := "found \x7bname\x7d" } free whole nothing
  refine ⟨free, whole, nothing, rendered, filled, ?_⟩
  rw [same]
  decide

/-- The placeholder stays where a hit without parameters was to leave it out. -/
theorem placeholder_outlasts_empty_hit :
    let rule := { Rule.noForceTry with summary := "found \x7bname\x7d" }
    rule.summary.toList = written foundName ∧
      rule.render ⟨some 3, []⟩ = .ok "found \x7bname\x7d" ∧
      String.ofList (shown [] foundName) = "found " ∧
      rule.render ⟨some 3, []⟩ ≠ .ok (String.ofList (shown [] foundName)) := by
  refine ⟨by decide, rfl, by decide, ?_⟩
  rw [render_empty _ rfl]
  decide

end LineLint
