import LineLint.Proofs.Masking.Resting
import Mathlib.Data.List.Forall2

/- Masking keeps every column: a masked line is as long as the raw one, and holds in each place the
   raw character or a space. -/
namespace LineLint.Masker

def Veils (c shown : Char) : Prop := shown = c ∨ shown = ' '

theorem blanks_veil (cs : List Char) : List.Forall₂ Veils cs (blanks cs) := by
  induction cs with
  | nil => exact .nil
  | cons c cs ih => exact .cons (.inr rfl) ih

theorem takes_veils {m : Masker} {raw : List Char} {s : MaskStep} (takes : m.Takes raw s) :
    ∃ taken, raw = taken ++ s.rest ∧ List.Forall₂ Veils taken s.shown := by
  cases takes with
  | @lineComment rest code =>
    refine ⟨'/' :: '/' :: rest, by simp, ?_⟩
    exact .cons (.inl rfl) (.cons (.inl rfl) (blanks_veil rest))
  | openComment => exact ⟨['/', '*'], rfl, by simp [Veils]⟩
  | openTextBlock => exact ⟨['"', '"', '"'], rfl, by simp [Veils]⟩
  | openString => exact ⟨['"'], rfl, by simp [Veils]⟩
  | @countParen c => exact ⟨[c], rfl, by simp [Veils]⟩
  | @closeInterpolation c => exact ⟨[c], rfl, by simp [Veils]⟩
  | @plain c => exact ⟨[c], rfl, by simp [Veils]⟩
  | nestComment => exact ⟨['/', '*'], rfl, by simp [Veils]⟩
  | closeNested => exact ⟨['*', '/'], rfl, by simp [Veils]⟩
  | closeComment => exact ⟨['*', '/'], rfl, by simp [Veils]⟩
  | @commentText c => exact ⟨[c], rfl, by simp [Veils]⟩
  | openInterpolation => exact ⟨['\\', '('], rfl, by simp [Veils]⟩
  | @escape c => exact ⟨['\\', c], rfl, by simp [Veils]⟩
  | loneBackslash => exact ⟨['\\'], rfl, by simp [Veils]⟩
  | closeString => exact ⟨['"'], rfl, by simp [Veils]⟩
  | closeTextBlock => exact ⟨['"', '"', '"'], rfl, by simp [Veils]⟩
  | @literalText c => exact ⟨[c], rfl, by simp [Veils]⟩

theorem takes_suffix {m : Masker} {raw : List Char} {s : MaskStep} (takes : m.Takes raw s) :
    s.rest <:+ raw := by
  obtain ⟨taken, eq, _⟩ := takes_veils takes
  exact ⟨taken, eq.symm⟩

theorem runs_veil {m last : Masker} {raw shown : List Char} (runs : Runs m raw shown last) :
    List.Forall₂ Veils raw shown := by
  induction runs with
  | done => exact .nil
  | step takes _ ih =>
    obtain ⟨taken, eq, veils⟩ := takes_veils takes
    rw [eq]
    exact List.rel_append veils ih

theorem trace_runs {m : Masker} {raws : List (List Char)} {steps : List (List Char × Masker)}
    (trace : m.trace raws = .ok steps) :
    List.Forall₂ (fun raw code => ∃ first last, Runs first raw code last) raws
      (steps.map Prod.fst) := by
  induction raws generalizing m steps with
  | nil => cases trace; exact .nil
  | cons raw rest ih =>
    obtain ⟨code, next, more, mask, after, rfl⟩ := trace_cons_ok trace
    obtain ⟨last, runs, _⟩ := mask_eq_ok mask
    exact .cons ⟨m, last, runs⟩ (ih after)

theorem trace_veils {m : Masker} {raws : List (List Char)} {steps : List (List Char × Masker)}
    (trace : m.trace raws = .ok steps) :
    List.Forall₂ (List.Forall₂ Veils) raws (steps.map Prod.fst) :=
  (trace_runs trace).imp fun _ _ ⟨_, _, runs⟩ => runs_veil runs

theorem veiled_begins {word raw code : List Char} (veiled : List.Forall₂ Veils raw code)
    (noSpace : ' ' ∉ word) (begins : word <+: code) : word <+: raw := by
  induction word generalizing raw code with
  | nil => exact List.nil_prefix
  | cons w word ih =>
    obtain ⟨visible, others⟩ := not_or.mp (mt List.mem_cons.mpr noSpace)
    cases veiled with
    | nil => simp at begins
    | cons first rest =>
      rw [List.cons_prefix_cons] at begins ⊢
      obtain ⟨rfl, begins⟩ := begins
      exact ⟨first.resolve_right (Ne.symm visible), ih rest others begins⟩

theorem veiled_at {raw code : List Char} (veiled : List.Forall₂ Veils raw code) {i : Nat} {c : Char}
    (place : raw[i]? = some c) : ∃ shown, code[i]? = some shown ∧ Veils c shown := by
  induction veiled generalizing i with
  | nil => simp at place
  | @cons d shown raw code veil _ ih =>
    cases i with
    | zero =>
      cases place
      exact ⟨shown, rfl, veil⟩
    | succ i => exact ih place

/-- Whatever lines came before, a line is masked in place: to a line of its length, in which a space may
    stand for a character, a space stays, and any other character is the one of the raw line. -/
theorem masked_in_place {m : Masker} (reached : m.Reached) (raw : List Char) :
    ∃ code next, m.mask raw = .ok (code, next) ∧ code.length = raw.length ∧
      (∀ (i : Nat) (c : Char), raw[i]? = some c → code[i]? = some c ∨ code[i]? = some ' ') ∧
      (∀ i : Nat, raw[i]? = some ' ' → code[i]? = some ' ') ∧
      ∀ (i : Nat) (c : Char), code[i]? = some c → c ≠ ' ' → raw[i]? = some c := by
  obtain ⟨code, next, mask, _⟩ := mask_total (reached_sound reached).counted raw
  obtain ⟨last, runs, _⟩ := mask_eq_ok mask
  have veiled := runs_veil runs
  have same := veiled.length_eq
  refine ⟨code, next, mask, same.symm, ?_, ?_, ?_⟩
  · intro i c place
    obtain ⟨shown, shows, rfl | rfl⟩ := veiled_at veiled place
    · exact .inl shows
    · exact .inr shows
  · intro i place
    obtain ⟨shown, shows, rfl | rfl⟩ := veiled_at veiled place <;> exact shows
  · intro i c shows visible
    obtain ⟨inside, _⟩ := List.getElem?_eq_some_iff.mp shows
    have place : raw[i]? = some raw[i] := List.getElem?_eq_getElem (same ▸ inside)
    obtain ⟨shown, shows', veil⟩ := veiled_at veiled place
    obtain rfl : c = shown := Option.some.inj (shows.symm.trans shows')
    rw [place, ← veil.resolve_right visible]

def closingLine : List Char := "é \\(b) \"\"\" + \"\\".toList

theorem closing_line_in_place :
    (Masker.mk [.textBlock] [] 0).Reached ∧
    ∃ next, (Masker.mk [.textBlock] [] 0).mask closingLine =
        .ok ("    b  \"\"\" + \" ".toList, next) ∧
      "    b  \"\"\" + \" ".toList.length = closingLine.length ∧
      closingLine[4]? = some 'b' ∧ closingLine[12]? = some ' ' := by
  have opened : start.mask "\"\"\"".toList = .ok ("\"\"\"".toList, ⟨[.textBlock], [], 0⟩) := by
    decide +kernel
  have reached : (Masker.mk [.textBlock] [] 0).Reached := .mask .fresh opened
  obtain ⟨code, next, mask, length, shown, spaces, visible⟩ := masked_in_place reached closingLine
  have computed : (Masker.mk [.textBlock] [] 0).mask closingLine =
      .ok ("    b  \"\"\" + \" ".toList, start) := by decide +kernel
  cases mask.symm.trans computed
  exact ⟨reached, _, mask, length, visible 4 'b' rfl (by decide), rfl⟩

end LineLint.Masker
