import LineLint.Proofs.Masking.WholeText

/- Masking a piece of text in front of any other: from which masker to which, and what is shown.
   Pieces are put together at the masker between them. -/
namespace LineLint.Masker

def Leads (m : Masker) (text shown follow : List Char) (next : Masker) : Prop :=
  ∀ more last, Masks next follow more last → Masks m (text ++ follow) (shown ++ more) last

theorem leads_refl (m : Masker) (follow : List Char) : Leads m [] [] follow m :=
  fun _ _ after => after

theorem leads_trans {m mid next : Masker} {first shown second shown' follow : List Char}
    (one : Leads m first shown (second ++ follow) mid) (two : Leads mid second shown' follow next) :
    Leads m (first ++ second) (shown ++ shown') follow next := by
  intro more last after
  rw [List.append_assoc, List.append_assoc]
  exact one _ _ (two _ _ after)

theorem leads_take {m next : Masker} {taken shown follow : List Char} (single : '\n' ∉ taken)
    (takes : ∀ line, line <+: follow → m.Takes (taken ++ line) ⟨shown, line, next⟩) :
    Leads m taken shown follow next := fun _ _ after => masks_take single takes after

theorem end_line_without_string {m : Masker} (noString : Construct.string ∉ m.stack) :
    m.endLine = m := by
  simp [endLine, cut_without_string noString]

theorem leads_newline {m : Masker} (noString : Construct.string ∉ m.stack) (follow : List Char) :
    Leads m ['\n'] ['\n'] follow m := by
  intro more last after
  exact masks_newline (by rwa [end_line_without_string noString])

theorem head_of_begins {line follow : List Char} {c : Char} (begins : line <+: follow)
    (head : line.head? = some c) : follow.head? = some c := by
  obtain ⟨tail, rfl⟩ := begins
  rw [List.head?_append, head]
  rfl

end LineLint.Masker
