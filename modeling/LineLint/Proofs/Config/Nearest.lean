import LineLint.Files.Tree
import LineLint.Proofs.Config.Search
import LineLint.Proofs.Path.Ancestors
import Mathlib.Data.List.Nodup

/- Which configuration file counts where none is asked for. It is the one in the nearest directory that
   holds any, the tool's own before a project file; it is read as if it were asked for, and whatever
   other files it hides has no part in the outcome. A file of which nothing can be told counts as well:
   the search ends there, and so does the run. -/
namespace LineLint.Config

/-- No configuration file stands in the directory. -/
def Bare (files : Files) (directory : String) : Prop :=
  ∀ file ∈ candidates directory, files.Lacks file

instance (files : Files) (directory : String) : Decidable (Bare files directory) :=
  inferInstanceAs (Decidable (∀ file ∈ candidates directory, files.Lacks file))

/-- The configuration file of a directory that holds one. -/
def fileIn (files : Files) (directory : String) : String :=
  if files.Lacks (Path.join directory ownFile) then Path.join directory projectFile
  else Path.join directory ownFile

/-- The paths of the files that the one of a directory hides: a project file beside the tool's own, and
    all files in the directories above. -/
def hidden (files : Files) (directory : String) (above : List String) : List String :=
  (if files.Lacks (Path.join directory ownFile) then [] else [Path.join directory projectFile]) ++
    above.flatMap candidates

section Chain

def filesUp : List String → List (List String)
  | [] => [[ownFile], [projectFile]]
  | name :: above => (ownFile :: name :: above) :: (projectFile :: name :: above) :: filesUp above

theorem mem_files_up {above inner : List String} (member : inner ∈ filesUp above) :
    ∃ file outer, inner = file :: outer ∧ (file = ownFile ∨ file = projectFile) ∧ outer <:+ above := by
  induction above with
  | nil =>
    simp only [filesUp, List.mem_cons, List.not_mem_nil, or_false] at member
    rcases member with rfl | rfl
    · exact ⟨_, _, rfl, .inl rfl, List.suffix_rfl⟩
    · exact ⟨_, _, rfl, .inr rfl, List.suffix_rfl⟩
  | cons name above ih =>
    rcases List.mem_cons.mp member with rfl | member
    · exact ⟨_, _, rfl, .inl rfl, List.suffix_rfl⟩
    rcases List.mem_cons.mp member with rfl | member
    · exact ⟨_, _, rfl, .inr rfl, List.suffix_rfl⟩
    · obtain ⟨file, outer, same, named, up⟩ := ih member
      exact ⟨file, outer, same, named, up.trans (List.suffix_cons name above)⟩

theorem files_up_distinct (above : List String) : (filesUp above).Nodup := by
  induction above with
  | nil => decide
  | cons name above ih =>
    -- The files in the directories above have fewer parts.
    have longer (file : String) : file :: name :: above ∉ filesUp above := by
      intro member
      obtain ⟨_, outer, same, _, up⟩ := mem_files_up member
      have shorter := up.length_le
      rw [← (List.cons.inj same).2, List.length_cons] at shorter
      omega
    rw [filesUp, List.nodup_cons, List.nodup_cons, List.mem_cons, not_or]
    exact ⟨⟨by simp [ownFile, projectFile], longer ownFile⟩, longer projectFile, ih⟩

theorem files_up_part {above inner : List String} (member : inner ∈ filesUp above) {part : String}
    (among : part ∈ inner) : part = ownFile ∨ part = projectFile ∨ part ∈ above := by
  obtain ⟨file, outer, rfl, named, up⟩ := mem_files_up member
  rcases List.mem_cons.mp among with rfl | later
  · exact named.imp_right .inl
  · exact .inr (.inr (up.subset later))

theorem candidates_up {first : String} {above : List String} (route : Path.Route first above) :
    candidates (Path.directoryUp first above) =
      [Path.pathUp first (ownFile :: above), Path.pathUp first (projectFile :: above)] := by
  rw [candidates, Path.join_directory route, Path.join_directory route]

theorem ancestors_candidates {first : String} {above : List String} (route : Path.Route first above) :
    (Path.ancestors first above).flatMap candidates = (filesUp above).map (Path.pathUp first) := by
  induction above with
  | nil => simpa [Path.ancestors, filesUp, Path.directoryUp] using candidates_up route
  | cons name above ih =>
    have outer : Path.Route first above :=
      ⟨route.single, route.placed, fun part member => route.named part (List.mem_cons_of_mem name member)⟩
    rw [Path.ancestors_cons, List.flatMap_cons, candidates_up route, ih outer]
    rfl

/-- The paths of the files that are looked for. None is met twice, and each is one that may be asked
    for: it is normalized and holds no null. -/
structure Sought (paths : List String) : Prop where
  distinct : paths.Nodup
  normal : ∀ path ∈ paths, Path.normalized path = path
  plain : ∀ path ∈ paths, Path.holdsNull path = false

theorem file_up_route {first : String} {above inner : List String} (route : Path.Route first above)
    (member : inner ∈ filesUp above) : Path.Route first inner := by
  refine ⟨route.single, route.placed, fun part among => ?_⟩
  rcases files_up_part member among with rfl | rfl | outer
  · decide
  · decide
  · exact route.named part outer

theorem upward_sought {directory : String} (noNull : Path.holdsNull directory = false) :
    Sought ((Path.upward directory).flatMap candidates) := by
  rcases Path.upward_cases directory with none | ⟨first, above, chain, route, parts⟩
  · rw [none]
    exact ⟨List.nodup_nil, by simp, by simp⟩
  rw [chain, ancestors_candidates route]
  constructor
  · refine (files_up_distinct above).map_on ?_
    intro inner member inner' member' same
    exact Path.path_up_inj (file_up_route route member) (file_up_route route member') same
  · intro path member
    obtain ⟨inner, up, rfl⟩ := List.mem_map.mp member
    obtain ⟨file, outer, rfl, _⟩ := mem_files_up up
    exact Path.normalized_path_up (file_up_route route up)
  · intro path member
    obtain ⟨inner, up, rfl⟩ := List.mem_map.mp member
    rw [Path.holdsNull, List.contains_eq_mem, decide_eq_false_iff_not] at noNull ⊢
    intro null
    rcases Path.mem_joined null with slash | ⟨part, among, inPart⟩
    · cases slash
    rcases List.mem_cons.mp among with rfl | among
    · exact noNull (Path.mem_part (parts _ List.mem_cons_self) inPart)
    rcases files_up_part up (List.mem_reverse.mp among) with rfl | rfl | outer
    · exact absurd inPart (by decide)
    · exact absurd inPart (by decide)
    · exact noNull (Path.mem_part (parts part (List.mem_cons_of_mem first outer)) inPart)

end Chain

section Walk

variable {limits : Limits} {files : Files} {directory : String}

theorem candidates_cut (above : List String) (found : ¬ Bare files directory) :
    ∃ before, (directory :: above).flatMap candidates =
        before ++ fileIn files directory :: hidden files directory above ∧
      (∀ file ∈ before, files.Lacks file) ∧ ¬ files.Lacks (fileIn files directory) := by
  by_cases own : files.Lacks (Path.join directory ownFile)
  · refine ⟨[Path.join directory ownFile], by simp [candidates, fileIn, hidden, own],
      by simp [own], ?_⟩
    simpa [Bare, candidates, fileIn, own] using found
  · exact ⟨[], by simp [candidates, fileIn, hidden, own], by simp, by simp [fileIn, own]⟩

theorem walk_cut {directories nearer above : List String}
    (chain : directories = nearer ++ directory :: above) (bare : ∀ d ∈ nearer, Bare files d)
    (found : ¬ Bare files directory) :
    ∃ before, directories.flatMap candidates =
        before ++ fileIn files directory :: hidden files directory above ∧
      (∀ file ∈ before, files.Lacks file) ∧ ¬ files.Lacks (fileIn files directory) := by
  obtain ⟨before, cut, lacking, there⟩ := candidates_cut above found
  refine ⟨nearer.flatMap candidates ++ before, ?_, ?_, there⟩
  · rw [chain, List.flatMap_append, cut, List.append_assoc]
  · intro file member
    rcases List.mem_append.mp member with earlier | here
    · obtain ⟨d, among, candidate⟩ := List.mem_flatMap.mp earlier
      exact bare d among file candidate
    · exact lacking file here

def loadAt (limits : Limits) (files : Files) (path : String) : Except ConfigFault Config := do
  match ← found? files [path] with
  | none => ofValue limits (.table [])
  | some path => (readFile limits.reads files path).bind (ofValue limits)

theorem load_nearest {directories before after : List String} {file : String}
    (cut : directories.flatMap candidates = before ++ file :: after)
    (lacking : ∀ other ∈ before, files.Lacks other) (there : ¬ files.Lacks file) :
    load limits files (.ok directories) none = loadAt limits files file := by
  simp only [load, chosen?, found_cut cut lacking there]
  rfl

theorem load_asked {file : String} (normal : Path.normalized file = file)
    (plain : Path.holdsNull file = false) (directories : Except AccessFault (List String)) :
    load limits files directories (some file) = loadAt limits files file := by
  simp only [load, chosen?, normal, plain]
  rfl

theorem load_bare {directories : List String} (bare : ∀ d ∈ directories, Bare files d) :
    load limits files (.ok directories) none = .ok permissive := by
  have none : found? files (directories.flatMap candidates) = .ok none := by
    refine found_none fun file member => ?_
    obtain ⟨d, among, candidate⟩ := List.mem_flatMap.mp member
    exact bare d among file candidate
  simp only [load, chosen?, none]
  rfl

theorem load_at_congr {files' : Files} {file : String} (same : files' file = files file) :
    loadAt limits files' file = loadAt limits files file := by
  have read : readFile limits.reads files' file = readFile limits.reads files file := by
    simp only [readFile, Files.read, same]
  have alike : found? files' [file] = found? files [file] := by simp only [found?, same]
  have met := found_one files file
  simp only [loadAt, alike]
  generalize found? files [file] = outcome at met
  cases met with
  | absent _ => rfl
  | present _ => exact congrArg (Except.bind · (ofValue limits)) read
  | barred _ _ => rfl

end Walk

/-- Where no file is asked for, the nearest directory that holds a configuration file decides, and in
    it the tool's own file before a project file: the outcome, be it a configuration or a fault, is that
    of asking for this file. The files that it hides may be there or not and may hold anything. Without
    any file the configuration is the permissive one. -/
theorem nearest_file_decides {current : String} (noNull : Path.holdsNull current = false)
    (limits : Limits) (files : Files) :
    ((∀ directory ∈ Path.upward current, Bare files directory) →
      load limits files (.ok (Path.upward current)) none = .ok permissive) ∧
    ∀ nearer directory above, Path.upward current = nearer ++ directory :: above →
      (∀ d ∈ nearer, Bare files d) → ¬ Bare files directory →
      (∀ directories, load limits files (.ok (Path.upward current)) none =
        load limits files directories (some (fileIn files directory))) ∧
      ∀ files' : Files,
        (∀ file ∈ (Path.upward current).flatMap candidates, file ∉ hidden files directory above →
          files' file = files file) →
        load limits files' (.ok (Path.upward current)) none =
          load limits files (.ok (Path.upward current)) none := by
  obtain ⟨distinct, normal, plain⟩ := upward_sought noNull
  refine ⟨load_bare, ?_⟩
  intro nearer directory above chain bare found
  obtain ⟨before, cut, lacking, there⟩ := walk_cut chain bare found
  rw [cut] at distinct normal plain
  obtain ⟨_, behind, apart⟩ := List.nodup_append.mp distinct
  have among : fileIn files directory ∈ before ++ fileIn files directory :: hidden files directory above :=
    List.mem_append_right before List.mem_cons_self
  constructor
  · intro directories
    rw [load_nearest cut lacking there, load_asked (normal _ among) (plain _ among)]
  · intro files' same
    rw [cut] at same
    have own : files' (fileIn files directory) = files (fileIn files directory) :=
      same _ among (List.nodup_cons.mp behind).1
    have lacking' : ∀ file ∈ before, files'.Lacks file := by
      intro file member
      have seen : file ∉ hidden files directory above := fun covered =>
        apart file member file (List.mem_cons_of_mem _ covered) rfl
      have earlier := same file (List.mem_append_left _ member) seen
      exact (Files.lacks_congr earlier).mpr (lacking file member)
    have there' : ¬ files'.Lacks (fileIn files directory) := (Files.lacks_congr own).not.mpr there
    rw [load_nearest cut lacking there, load_nearest cut lacking' there', load_at_congr own]

def hidingTree : FileTree :=
  ⟨"<root>",
    [(["a", ".stylint.toml"], .file (Text.encode "profile =".toList)),
     (["a", "pyproject.toml"], .file (Text.encode "[tool.stylint]".toList)),
     ([".stylint.toml"], .file (Text.encode "profile = \"minimal\"".toList))], ["a", "b"]⟩

def changedTree : FileTree :=
  { hidingTree with entries :=
      [(["a", ".stylint.toml"], .file (Text.encode "profile =".toList)),
       (["pyproject.toml"], .directory)] }

def lockedTree : FileTree :=
  { hidingTree with entries :=
      [(["a"], .locked true .denied),
       ([".stylint.toml"], .file (Text.encode "profile = \"minimal\"".toList))] }

theorem malformed_file_decides :
    let directories := Path.upward hidingTree.currentPath
    Path.holdsNull hidingTree.currentPath = false ∧
      directories = ["<root>/a/b"] ++ "<root>/a" :: ["<root>"] ∧
      (∀ d ∈ ["<root>/a/b"], Bare hidingTree.find d) ∧ ¬ Bare hidingTree.find "<root>/a" ∧
      (∀ file ∈ directories.flatMap candidates,
        file ∉ hidden hidingTree.find "<root>/a" ["<root>"] →
          changedTree.find file = hidingTree.find file) ∧
      load .unlimited hidingTree.find (.ok directories) none =
        .error (.setting (.malformed "<root>/a/.stylint.toml")) ∧
      load .unlimited hidingTree.find (.ok directories) none =
        load .unlimited hidingTree.find (.ok []) (some "<root>/a/.stylint.toml") ∧
      load .unlimited changedTree.find (.ok directories) none =
        load .unlimited hidingTree.find (.ok directories) none ∧
      load .unlimited (fun _ => .error .missing) (.ok directories) none = .ok permissive ∧
      ¬ Bare lockedTree.find "<root>/a/b" ∧
      load .unlimited lockedTree.find (.ok directories) none =
        .error (.unchecked (.unreachable "<root>/a/b/.stylint.toml" .denied)) ∧
      load .unlimited lockedTree.find (.ok directories) none =
        load .unlimited lockedTree.find (.ok []) (some "<root>/a/b/.stylint.toml") := by
  have noNull : Path.holdsNull hidingTree.currentPath = false := by decide
  have chain : Path.upward hidingTree.currentPath = ["<root>/a/b"] ++ "<root>/a" :: ["<root>"] := by
    decide +kernel
  have bare : ∀ d ∈ ["<root>/a/b"], Bare hidingTree.find d := by decide +kernel
  have found : ¬ Bare hidingTree.find "<root>/a" := by decide +kernel
  have alike : ∀ file ∈ (Path.upward hidingTree.currentPath).flatMap candidates,
      file ∉ hidden hidingTree.find "<root>/a" ["<root>"] →
        changedTree.find file = hidingTree.find file := by decide +kernel
  have locked : ¬ Bare lockedTree.find "<root>/a/b" := by decide +kernel
  obtain ⟨_, decides⟩ := nearest_file_decides noNull .unlimited hidingTree.find
  obtain ⟨asked, unread⟩ := decides _ _ _ chain bare found
  obtain ⟨permits, _⟩ := nearest_file_decides noNull .unlimited fun _ => .error .missing
  obtain ⟨_, barred⟩ := nearest_file_decides noNull .unlimited lockedTree.find
  obtain ⟨alone, _⟩ := barred [] "<root>/a/b" ["<root>/a", "<root>"] chain (by simp) locked
  refine ⟨noNull, chain, bare, found, alike, rfl, asked _, unread changedTree.find alike,
    permits fun _ _ => ?_, locked, rfl, alone _⟩
  exact fun _ _ => ⟨.missing, rfl, .inl rfl⟩

end LineLint.Config
