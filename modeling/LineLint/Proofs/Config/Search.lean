import LineLint.Config.File

/- The search for a configuration file. Paths where nothing stands are passed over, and the first other
   one decides: a file is there, or it cannot be told whether one is. -/
namespace LineLint

/-- The fault of a path where nothing stands: a missing file, a bad descriptor, a part that is no
    directory, or too many links. -/
def AccessFault.Absence (fault : AccessFault) : Prop :=
  fault.number = 2 ∨ fault.number = 9 ∨ fault.number = 20 ∨ fault.number = 40

theorem AccessFault.is_absence_iff {fault : AccessFault} :
    fault.isAbsence = true ↔ fault.Absence := by
  simp [isAbsence, absences, Absence]

instance (fault : AccessFault) : Decidable fault.Absence :=
  decidable_of_iff _ AccessFault.is_absence_iff

namespace Files

/-- Nothing stands at the path. -/
def Lacks (files : Files) (path : String) : Prop :=
  ∃ fault, files path = .error fault ∧ fault.Absence

/-- It cannot be told whether anything stands at the path. -/
def Bars (files : Files) (path : String) : Prop :=
  ∃ fault, files path = .error fault ∧ ¬ fault.Absence

instance (files : Files) (path : String) : Decidable (files.Lacks path) :=
  match found : files path with
  | .ok _ => isFalse fun ⟨_, failed, _⟩ => by cases found.symm.trans failed
  | .error fault =>
      decidable_of_iff fault.Absence
        ⟨fun absent => ⟨fault, found, absent⟩, fun ⟨_, failed, absent⟩ => by
          cases found.symm.trans failed
          exact absent⟩

theorem bars_not_lacks {files : Files} {path : String} (bars : files.Bars path) :
    ¬ files.Lacks path := by
  obtain ⟨fault, failed, other⟩ := bars
  rintro ⟨_, also, absent⟩
  cases failed.symm.trans also
  exact other absent

theorem lacks_congr {files files' : Files} {path : String} (same : files' path = files path) :
    files'.Lacks path ↔ files.Lacks path := by
  rw [Lacks, Lacks, same]

end Files

namespace Config

variable {files : Files}

inductive Met (files : Files) (path : String) : Except ConfigFault (Option String) → Prop
  | absent (lacks : files.Lacks path) : Met files path (.ok none)
  | present {entry : Entry} (there : files path = .ok entry) : Met files path (.ok (some path))
  | barred {fault : AccessFault} (failed : files path = .error fault) (other : ¬ fault.Absence) :
      Met files path (.error (.unchecked (.unreachable path fault)))

theorem found_one (files : Files) (path : String) : Met files path (found? files [path]) := by
  unfold found?
  cases met : files path with
  | ok entry => exact .present met
  | error fault =>
    by_cases absent : fault.Absence
    · simp only [AccessFault.is_absence_iff.mpr absent, if_true]
      exact .absent ⟨fault, met, absent⟩
    · simp only [AccessFault.is_absence_iff, absent, if_false]
      exact .barred met absent

theorem found_skip {before rest : List String} (lacking : ∀ path ∈ before, files.Lacks path) :
    found? files (before ++ rest) = found? files rest := by
  induction before with
  | nil => rfl
  | cons path before ih =>
    obtain ⟨⟨fault, failed, absent⟩, later⟩ := List.forall_mem_cons.mp lacking
    rw [List.cons_append, found?, failed]
    simp only [AccessFault.is_absence_iff.mpr absent, if_true, ih later]

theorem found_first {path : String} (present : ¬ files.Lacks path) (rest : List String) :
    found? files (path :: rest) = found? files [path] := by
  unfold found?
  cases met : files path with
  | ok entry => rfl
  | error fault =>
    have other : ¬ fault.Absence := fun absent => present ⟨fault, met, absent⟩
    simp only [AccessFault.is_absence_iff, other, if_false]

theorem found_cut {paths before after : List String} {path : String}
    (cut : paths = before ++ path :: after) (lacking : ∀ other ∈ before, files.Lacks other)
    (present : ¬ files.Lacks path) : found? files paths = found? files [path] := by
  rw [cut, found_skip lacking, found_first present]

theorem found_none {paths : List String} (lacking : ∀ path ∈ paths, files.Lacks path) :
    found? files paths = .ok none := by
  have skipped : found? files (paths ++ []) = .ok none := found_skip lacking
  rwa [List.append_nil] at skipped

theorem lacking_or_cut (files : Files) (paths : List String) :
    (∀ path ∈ paths, files.Lacks path) ∨ ∃ before path after, paths = before ++ path :: after ∧
      (∀ other ∈ before, files.Lacks other) ∧ ¬ files.Lacks path := by
  induction paths with
  | nil => exact .inl (by simp)
  | cons path rest ih =>
    by_cases lacks : files.Lacks path
    · rcases ih with all | ⟨before, found, after, rfl, lacking, present⟩
      · exact .inl (List.forall_mem_cons.mpr ⟨lacks, all⟩)
      · exact .inr ⟨path :: before, found, after, rfl, List.forall_mem_cons.mpr ⟨lacks, lacking⟩,
          present⟩
    · exact .inr ⟨[], path, rest, rfl, by simp, lacks⟩

def Blocked (files : Files) (paths : List String) : Prop :=
  ∃ before path after, paths = before ++ path :: after ∧
    (∀ other ∈ before, files.Lacks other) ∧ files.Bars path

theorem blocked_fails {paths : List String} (blocked : Blocked files paths) :
    ∃ fault, found? files paths = .error (.unchecked fault) := by
  obtain ⟨before, path, after, cut, lacking, bars⟩ := blocked
  rw [found_cut cut lacking (Files.bars_not_lacks bars)]
  obtain ⟨fault, failed, other⟩ := bars
  simp only [found?, failed, AccessFault.is_absence_iff, other, if_false]
  exact ⟨_, rfl⟩

theorem found_cases (files : Files) (paths : List String) :
    (∃ file?, found? files paths = .ok file?) ∧ ¬ Blocked files paths ∨
      (∃ fault, found? files paths = .error (.unchecked fault)) ∧ Blocked files paths := by
  have ends {file? : Option String} (found : found? files paths = .ok file?) :
      ¬ Blocked files paths := fun blocked => by
    obtain ⟨fault, failed⟩ := blocked_fails blocked
    cases found.symm.trans failed
  rcases lacking_or_cut files paths with all | ⟨before, path, after, cut, lacking, present⟩
  · exact .inl ⟨⟨none, found_none all⟩, ends (found_none all)⟩
  · have first := found_cut cut lacking present
    have met := found_one files path
    generalize found? files [path] = outcome at first met
    cases met with
    | absent lacks => exact absurd lacks present
    | present _ => exact .inl ⟨⟨some path, first⟩, ends first⟩
    | barred failed other =>
      exact .inr ⟨⟨_, first⟩, before, path, after, cut, lacking, _, failed, other⟩

end Config

end LineLint
