import LineLint.Proofs.Line.Split
import LineLint.Proofs.Masking.Columns

/- Masking a text as a whole, its line feeds among the characters. What a rule does next is decided
   by the characters up to the next line feed, so steps can be put in front of a masked text one by
   one, and the text cut into lines in the end. -/
namespace LineLint.Masker

/-- The lines of a text are masked one after the other, and the line feeds between them stay. The
    last masker stands at the end of the text, before the last line is ended. -/
inductive Masks : Masker → List Char → List Char → Masker → Prop where
  | last {m last : Masker} {line code : List Char} (single : '\n' ∉ line)
      (runs : Runs m line code last) : Masks m line code last
  | more {m mid last : Masker} {line code rest shown : List Char} (single : '\n' ∉ line)
      (runs : Runs m line code mid) (after : Masks mid.endLine rest shown last) :
      Masks m (line ++ '\n' :: rest) (code ++ '\n' :: shown) last

theorem masks_nil (m : Masker) : Masks m [] [] m := .last List.not_mem_nil (.done m)

theorem masks_newline {m last : Masker} {rest shown : List Char}
    (after : Masks m.endLine rest shown last) : Masks m ('\n' :: rest) ('\n' :: shown) last :=
  Masks.more List.not_mem_nil (.done m) after

theorem first_newline_unique {a b x y : List Char} (ha : '\n' ∉ a) (hb : '\n' ∉ b)
    (same : a ++ '\n' :: x = b ++ '\n' :: y) : a = b ∧ x = y := by
  induction a generalizing b with
  | nil =>
    cases b with
    | nil => exact ⟨rfl, (List.cons.inj same).2⟩
    | cons d b => exact absurd (List.mem_cons.mpr (.inl (List.cons.inj same).1)) hb
  | cons c a ih =>
    cases b with
    | nil => exact absurd (List.mem_cons.mpr (.inl (List.cons.inj same).1.symm)) ha
    | cons d b =>
      simp only [List.cons_append, List.cons.injEq, List.mem_cons, not_or] at same ha hb
      obtain ⟨rfl, rfl⟩ := ih ha.2 hb.2 same.2
      exact ⟨by rw [same.1], rfl⟩

theorem masks_step {m last : Masker} {line tail shown : List Char} {s : MaskStep}
    (takes : m.Takes line s) (single : '\n' ∉ line) (ends : ∀ c ∈ tail.head?, c = '\n')
    (after : Masks s.after (s.rest ++ tail) shown last) :
    Masks m (line ++ tail) (s.shown ++ shown) last := by
  have restSingle : '\n' ∉ s.rest := fun member => single ((takes_suffix takes).mem member)
  cases tail with
  | nil =>
    rw [List.append_nil] at after ⊢
    generalize eq : s.rest = text at after
    cases after with
    | last _ runs => exact .last single (.step takes (eq ▸ runs))
    | more => simp [eq] at restSingle
  | cons c tail =>
    obtain rfl : c = '\n' := ends c rfl
    generalize eq : s.rest ++ '\n' :: tail = text at after
    cases after with
    | last textSingle _ => simp [← eq] at textSingle
    | more lineSingle runs after =>
      obtain ⟨rfl, rfl⟩ := first_newline_unique restSingle lineSingle eq
      rw [← List.append_assoc]
      exact .more single (.step takes runs) after

theorem first_line_exists (text : List Char) :
    ∃ line tail, text = line ++ tail ∧ '\n' ∉ line ∧ ∀ c ∈ tail.head?, c = '\n' := by
  induction text with
  | nil => exact ⟨[], [], rfl, List.not_mem_nil, by simp⟩
  | cons c text ih =>
    by_cases feed : c = '\n'
    · exact ⟨[], c :: text, rfl, List.not_mem_nil, by simpa using feed⟩
    · obtain ⟨line, tail, rfl, single, ends⟩ := ih
      exact ⟨c :: line, tail, rfl, by simp [single, Ne.symm feed], ends⟩

theorem masks_take {m next last : Masker} {taken follow first shown : List Char}
    (single : '\n' ∉ taken)
    (takes : ∀ line, line <+: follow → m.Takes (taken ++ line) ⟨first, line, next⟩)
    (after : Masks next follow shown last) : Masks m (taken ++ follow) (first ++ shown) last := by
  obtain ⟨line, tail, rfl, lineSingle, ends⟩ := first_line_exists follow
  rw [← List.append_assoc]
  refine masks_step (takes line (List.prefix_append line tail)) ?_ ends after
  rw [List.mem_append, not_or]
  exact ⟨single, lineSingle⟩

theorem veiled_ordinary {raw code : List Char} (veils : List.Forall₂ Veils raw code)
    (ordinary : ∀ c ∈ raw, isTerminator c = false) : ∀ c ∈ code, isTerminator c = false := by
  induction veils with
  | nil => simp
  | @cons c shown raw code veil _ ih =>
    intro d member
    rcases List.mem_cons.mp member with rfl | member
    · rcases veil with rfl | rfl
      · exact ordinary _ List.mem_cons_self
      · rfl
    · exact ih (fun e later => ordinary e (List.mem_cons_of_mem c later)) d member

theorem masks_trace {m last : Masker} {text shown : List Char} (masks : Masks m text shown last)
    (noReturn : '\r' ∉ text) :
    ∃ steps, m.trace (splitLines text) = .ok steps ∧ steps.map Prod.fst = splitLines shown ∧
      (last.stack = [] → ((steps.map Prod.snd).getLastD m).stack = []) := by
  induction masks with
  | @last m last line code single runs =>
    cases line with
    | nil =>
      cases runs with
      | done => exact ⟨[], rfl, rfl, id⟩
      | step takes => cases takes
    | cons c line =>
      have ordinary := ordinary_of_single single noReturn
      have veils := runs_veil runs
      have nonempty : code ≠ [] := by rintro rfl; cases veils
      rw [split_lines_single ordinary (List.cons_ne_nil c line),
        split_lines_single (veiled_ordinary veils ordinary) nonempty]
      refine ⟨[(code, last.endLine)], trace_cons (mask_of_runs runs) rfl, rfl, fun empty => ?_⟩
      simp [endLine, empty, cut]
  | @more m mid last line code rest shown single runs _ ih =>
    simp only [List.mem_append, List.mem_cons, not_or] at noReturn
    have ordinary := ordinary_of_single single noReturn.1
    obtain ⟨steps, trace, codes, final⟩ := ih noReturn.2.2
    rw [split_lines_append ordinary,
      split_lines_append (veiled_ordinary (runs_veil runs) ordinary)]
    refine ⟨(code, mid.endLine) :: steps, trace_cons (mask_of_runs runs) trace, ?_, ?_⟩
    · rw [List.map_cons, codes]
    · simpa only [List.map_cons, List.getLastD_cons] using final

end LineLint.Masker
