import LineLint.CommandLine.Lint
import LineLint.Files.Tree
import LineLint.Proofs.Config.Search
import LineLint.Proofs.Config.Settings
import LineLint.Proofs.Text.Utf8

/- Which configurations a run is refused for, and which break it off. A run is refused for a file that
   cannot be opened, for a malformed one, and for settings that a message can tell of; whatever else
   is wrong with a file, or with the way to it, is a fault that no check expects. -/
namespace LineLint

theorem Value.all_texts (items : List Value) (texts : ∀ item ∈ items, item.text? ≠ none) :
    ∃ found, items.mapM Value.text? = some found := by
  induction items with
  | nil => exact ⟨[], rfl⟩
  | cons item items ih =>
    obtain ⟨first, rest⟩ := List.forall_mem_cons.mp texts
    obtain ⟨s, text⟩ := Option.ne_none_iff_exists'.mp first
    obtain ⟨found, later⟩ := ih rest
    exact ⟨s :: found, by simp [List.mapM_cons, text, later]⟩

namespace Config

theorem known_name_text {item : Value} (known : isKnownName item = true) : item.text? ≠ none := by
  cases item <;> simp_all [isKnownName, Value.text?]

theorem unhashable_eq_some {items : List Value} {fault : UncheckedFault}
    (found : unhashable? items = some fault) : ∃ item ∈ items, item.text? = none := by
  obtain ⟨item, member, unhashable⟩ := List.exists_of_findSome?_eq_some found
  refine ⟨item, member, ?_⟩
  cases item <;> simp_all [Value.text?]

theorem unknown_texts_iff (items : List Value) :
    (∃ names, (items.filter fun item => !isKnownName item).mapM Value.text? = some names) ↔
      ∀ item ∈ items, item.text? ≠ none := by
  constructor
  · rintro ⟨names, texts⟩ item member untext
    have strange : isKnownName item = false :=
      Bool.eq_false_iff.mpr fun known => known_name_text known untext
    have unknown : item ∈ items.filter fun item => !isKnownName item :=
      List.mem_filter.mpr ⟨member, by rw [strange]; rfl⟩
    rw [Value.map_text_eq_some.mp texts] at unknown
    obtain ⟨name, _, rfl⟩ := List.mem_map.mp unknown
    cases untext
  · intro texts
    exact Value.all_texts _ fun item unknown => texts item (List.mem_filter.mp unknown).1

theorem fault_of_items_unchecked_iff (kind : String) (items : List Value) :
    (∃ fault, faultOfItems kind items = .unchecked fault) ↔
      (∃ item ∈ items, item.text? = none) ∨ ∀ item ∈ items, isKnownName item = true := by
  -- What is told are the unknown items alone, but the known ones are texts in any case.
  have told := unknown_texts_iff items
  unfold faultOfItems
  cases found : unhashable? items with
  | some fault => simp [unhashable_eq_some found]
  | none =>
    cases unknown : items.filter fun item => !isKnownName item with
    | nil =>
      have known : ∀ item ∈ items, isKnownName item = true := by simpa using unknown
      exact iff_of_true ⟨_, rfl⟩ (.inr known)
    | cons first rest =>
      rw [unknown] at told
      cases texts : (first :: rest).mapM Value.text? with
      | none =>
        simp only [texts]
        refine iff_of_true ⟨_, rfl⟩ (.inl ?_)
        by_contra every
        obtain ⟨names, found⟩ := told.mpr fun item member untext => every ⟨item, member, untext⟩
        cases texts.symm.trans found
      | some names =>
        simp only [texts]
        refine iff_of_false (by simp) ?_
        rintro (⟨item, member, untext⟩ | known)
        · exact told.mp ⟨names, texts⟩ item member untext
        · have among : first ∈ items.filter fun item => !isKnownName item :=
            unknown ▸ List.mem_cons_self
          obtain ⟨member, other⟩ := List.mem_filter.mp among
          rw [known first member] at other
          cases other

variable {limits : Limits}

def Unmeant (limits : Limits) : Value → Prop
  | .table settings => Untold limits settings
  | .text s => s = ""
  | .list items => (∃ item ∈ items, item.text? = none) ∨ ∀ item ∈ items, isKnownName item = true
  | _ => True

theorem letter_unknown (c : Char) : isKnownName (.text (String.singleton c)) = false := by
  have short : (String.singleton c).length = 1 := by simp
  rw [isKnownName, List.contains_eq_mem, decide_eq_false_iff_not]
  intro known
  have long : ∀ key ∈ knownKeys, key.length ≠ 1 := by decide
  exact long _ known short

theorem of_value_unchecked_iff (value : Value) :
    (∃ fault, ofValue limits value = .error (.unchecked fault)) ↔ Unmeant limits value := by
  cases value with
  | table settings => exact of_settings_unchecked_iff limits settings
  | list items =>
    simp only [ofValue, Except.error.injEq]
    exact fault_of_items_unchecked_iff "list" items
  | text s =>
    simp only [ofValue, Except.error.injEq, fault_of_items_unchecked_iff, Unmeant]
    constructor
    · rintro (⟨item, member, untext⟩ | known)
      · obtain ⟨c, _, rfl⟩ := List.mem_map.mp member
        cases untext
      · have none : s.toList = [] := by
          rw [List.eq_nil_iff_forall_not_mem]
          intro c member
          have named := known _ (List.mem_map_of_mem member)
          rw [letter_unknown] at named
          cases named
        exact String.toList_eq_nil_iff.mp none
    · rintro rfl
      exact .inr (by simp)
  | _ => exact iff_of_true ⟨_, rfl⟩ trivial

def NoTools (path : String) (fields : Settings) : Prop :=
  Path.name path = projectFile ∧
    ∃ value, fields.lookup "tool" = some value ∧ ∀ tools, value ≠ .table tools

theorem tool_section_error_iff (fields : Settings) (fault : ConfigFault) :
    toolSection fields = .error fault ↔
      ∃ value, fields.lookup "tool" = some value ∧ (∀ tools, value ≠ .table tools) ∧
        fault = .unchecked (.noFields value.kind) := by
  unfold toolSection
  cases found : fields.lookup "tool" with
  | none => simp
  | some value => cases value <;> simp [eq_comm]

/-- The content of a file that breaks off a run. Beside malformed documents a reader refuses integers
    that are too long and values that are nested too deep, and these refusals are no check's. -/
inductive Misread (limits : Limits) (path : String) (bytes : List UInt8) : Prop
  | undecodable (unread : ∀ text, Text.encode text ≠ bytes) : Misread limits path bytes
  | overLimit {text : List Char} {fault : Toml.Fault} (reads : Text.encode text = bytes)
      (parsed : Toml.parse limits.reads text = .error fault) (limit : fault ≠ .malformed) :
      Misread limits path bytes
  | noTools {text : List Char} {fields : Settings} (reads : Text.encode text = bytes)
      (parsed : Toml.parse limits.reads text = .ok fields) (lacks : NoTools path fields) :
      Misread limits path bytes
  | unmeant {text : List Char} {value : Value} (reads : Text.encode text = bytes)
      (found : settingsIn limits.reads path text = .ok value) (unmeant : Unmeant limits value) :
      Misread limits path bytes

theorem settings_in_unchecked_iff (room : Toml.Room) (path : String) (text : List Char) :
    (∃ fault, settingsIn room path text = .error (.unchecked fault)) ↔
      (∃ fault, Toml.parse room text = .error fault ∧ fault ≠ .malformed) ∨
        ∃ fields, Toml.parse room text = .ok fields ∧ NoTools path fields := by
  unfold settingsIn
  cases parsed : Toml.parse room text with
  | error fault => cases fault <;> simp
  | ok fields =>
    by_cases project : Path.name path = projectFile
    · simp only [project, if_true, tool_section_error_iff, NoTools]
      constructor
      · rintro ⟨fault, value, found, noTable, _⟩
        exact .inr ⟨fields, rfl, trivial, value, found, noTable⟩
      · rintro (⟨_, failed, _⟩ | ⟨_, same, _, value, found, noTable⟩)
        · cases failed
        · cases same
          exact ⟨_, value, found, noTable, rfl⟩
    · simp [project, NoTools]

theorem misread_iff {path : String} {bytes : List UInt8} {text : List Char}
    (reads : Text.encode text = bytes) :
    Misread limits path bytes ↔
      ∃ fault, settingsIn limits.reads path text >>= ofValue limits =
        .error (.unchecked fault) := by
  -- Each case but the first is about a text of the bytes, and there is only one.
  constructor
  · intro misread
    cases misread with
    | undecodable unread => exact absurd reads (unread text)
    | overLimit also parsed limit =>
      cases Text.encode_inj (also.trans reads.symm)
      obtain ⟨fault, unset⟩ := (settings_in_unchecked_iff limits.reads path text).mpr (.inl ⟨_, parsed, limit⟩)
      exact ⟨fault, bind_eq_error.mpr (.inl unset)⟩
    | noTools also parsed lacks =>
      cases Text.encode_inj (also.trans reads.symm)
      obtain ⟨fault, unset⟩ := (settings_in_unchecked_iff limits.reads path text).mpr (.inr ⟨_, parsed, lacks⟩)
      exact ⟨fault, bind_eq_error.mpr (.inl unset)⟩
    | unmeant also found unmeant =>
      cases Text.encode_inj (also.trans reads.symm)
      obtain ⟨fault, unread⟩ := (of_value_unchecked_iff _).mpr unmeant
      exact ⟨fault, bind_eq_error.mpr (.inr ⟨_, found, unread⟩)⟩
  · rintro ⟨fault, failed⟩
    rcases bind_eq_error.mp failed with unset | ⟨value, found, unread⟩
    · rcases (settings_in_unchecked_iff limits.reads path text).mp ⟨fault, unset⟩ with
        ⟨limit, parsed, other⟩ | ⟨fields, parsed, lacks⟩
      · exact .overLimit reads parsed other
      · exact .noTools reads parsed lacks
    · exact .unmeant reads found ((of_value_unchecked_iff value).mp ⟨fault, unread⟩)

theorem read_file_unchecked_iff (files : Files) (path : String) :
    (∃ fault, readFile limits.reads files path >>= ofValue limits = .error (.unchecked fault)) ↔
      ∃ bytes, files.read path = .ok bytes ∧ Misread limits path bytes := by
  unfold readFile
  cases files.read path with
  | error fault => simp [bind, Except.bind]
  | ok bytes =>
    simp only [Except.ok.injEq, exists_eq_left']
    cases decoded : Text.decode bytes with
    | error fault =>
      refine iff_of_true ⟨_, rfl⟩ (.undecodable fun text reads => ?_)
      rw [(Text.decode_eq_ok_iff bytes text).mpr reads] at decoded
      cases decoded
    | ok text => exact (misread_iff ((Text.decode_eq_ok_iff bytes text).mp decoded)).symm

/-- No choice of a file is reached: nothing can be told of the file asked for, or of the first that is
    not missing where none is asked for, or the current directory itself is lost. -/
inductive Unreachable (files : Files) (directories : Except AccessFault (List String)) :
    Option String → Prop
  | asked {path : String} (plain : Path.holdsNull (Path.normalized path) = false)
      (bars : files.Bars (Path.normalized path)) : Unreachable files directories (some path)
  | nearest {found : List String} (known : directories = .ok found)
      (blocked : Blocked files (found.flatMap candidates)) : Unreachable files directories none
  | lost {fault : AccessFault} (unknown : directories = .error fault) :
      Unreachable files directories none

/-- The files and the choice among them break off a run. -/
def Breaks (limits : Limits) (files : Files) (directories : Except AccessFault (List String))
    (path : Option String) : Prop :=
  Unreachable files directories path ∨
    ∃ file bytes, chosen? files directories path = .ok (some file) ∧
      files.read file = .ok bytes ∧ Misread limits file bytes

theorem blocked_one_iff (files : Files) (path : String) :
    Blocked files [path] ↔ files.Bars path := by
  constructor
  · rintro ⟨before, other, after, cut, _, bars⟩
    have among : other ∈ [path] := cut ▸ List.mem_append_right before List.mem_cons_self
    rwa [List.mem_singleton.mp among] at bars
  · exact fun bars => ⟨[], path, [], rfl, by simp, bars⟩

theorem chosen_cases (files : Files) (directories : Except AccessFault (List String))
    (path : Option String) :
    (∃ file?, chosen? files directories path = .ok file?) ∧ ¬ Unreachable files directories path ∨
      (∃ fault, chosen? files directories path = .error (.unchecked fault)) ∧
        Unreachable files directories path := by
  cases path with
  | none =>
    cases directories with
    | error fault => exact .inr ⟨⟨_, rfl⟩, .lost rfl⟩
    | ok found =>
      rcases found_cases files (found.flatMap candidates) with ⟨ends, free⟩ | ⟨fails, blocked⟩
      · refine .inl ⟨ends, fun unreachable => ?_⟩
        cases unreachable with
        | nearest known blocked =>
          cases known
          exact free blocked
        | lost unknown => cases unknown
      · exact .inr ⟨fails, .nearest rfl blocked⟩
  | some path =>
    simp only [chosen?]
    cases plain : Path.holdsNull (Path.normalized path) with
    | true =>
      refine .inl ⟨⟨none, rfl⟩, fun unreachable => ?_⟩
      cases unreachable with
      | asked other _ => cases plain.symm.trans other
    | false =>
      rcases found_cases files [Path.normalized path] with ⟨ends, free⟩ | ⟨fails, blocked⟩
      · refine .inl ⟨ends, fun unreachable => ?_⟩
        cases unreachable with
        | asked _ bars => exact free ((blocked_one_iff files _).mpr bars)
      · exact .inr ⟨fails, .asked plain ((blocked_one_iff files _).mp blocked)⟩

theorem load_unchecked_iff (limits : Limits) (files : Files)
    (directories : Except AccessFault (List String)) (path : Option String) :
    (∃ fault, load limits files directories path = .error (.unchecked fault)) ↔
      Breaks limits files directories path := by
  unfold load Breaks
  rcases chosen_cases files directories path with ⟨⟨file?, chosen⟩, reachable⟩ |
    ⟨⟨fault, lost⟩, unreachable⟩
  · rw [chosen]
    cases file? with
    | none =>
      have permitted : ofValue limits (.table []) = .ok permissive := rfl
      refine iff_of_false ?_ ?_
      · rintro ⟨fault, failed⟩
        cases permitted.symm.trans failed
      rintro (unreachable | ⟨file, bytes, other, _⟩)
      · exact reachable unreachable
      · cases other
    | some file =>
      refine (read_file_unchecked_iff files file).trans ⟨?_, ?_⟩
      · rintro ⟨bytes, content, misread⟩
        exact .inr ⟨file, bytes, rfl, content, misread⟩
      · rintro (unreachable | ⟨_, bytes, same, content, misread⟩)
        · exact absurd unreachable reachable
        · cases same
          exact ⟨bytes, content, misread⟩
  · exact iff_of_true ⟨fault, by rw [lost]; rfl⟩ (.inl unreachable)

end Config

namespace CommandLine

/-- The configuration that is asked for breaks off a run. -/
def Environment.Breaks (environment : Environment) (path : Option String) : Prop :=
  Config.Breaks environment.limits environment.files environment.directories path

/-- A run is broken off by its configuration in the cases above and in no others. In all others there
    is a configuration, or the run is refused, with an exit code of its own and with what is wrong. -/
theorem lint_config_outcome (verbose : Bool) (environment : Environment) (options : LintOptions) :
    match environment.config options.config with
    | .error (.unchecked fault) =>
        environment.Breaks options.config ∧
          lint verbose environment options = ⟨[], .broken fault⟩
    | .error (.setting fault) =>
        ¬ environment.Breaks options.config ∧
          lint verbose environment options = .refused ("Error: invalid config: " ++ fault.message)
    | .ok _ => ¬ environment.Breaks options.config := by
  have breaks : (∃ fault, environment.config options.config = .error (.unchecked fault)) ↔
      environment.Breaks options.config := Config.load_unchecked_iff _ _ _ _
  rw [← breaks]
  unfold lint
  cases environment.config options.config with
  | ok config => simp
  | error fault =>
    cases fault with
    | unchecked fault => exact ⟨⟨fault, rfl⟩, rfl⟩
    | setting fault => simp

def beside (name : String) (entry : Entry) : Environment :=
  let tree : FileTree := ⟨"<root>", [([name], entry)], []⟩
  ⟨tree.find, .ok (Path.upward tree.currentPath), none, .unlimited⟩

def lintBeside (name : String) (entry : Entry) : Run :=
  lint false (beside name entry) ⟨["a.swift"], .text, [], .warning, true, none, none⟩

/-- Bytes that are no text, and two values in place of a table, are not told as what is wrong with a
    configuration, while a file that may not be opened is. -/
theorem config_faults_escape :
    (beside ".stylint.toml" (.file [0xFF])).config none =
        .error (.unchecked (.undecodable ⟨0, [0xFF], .invalidStart⟩)) ∧
      lintBeside ".stylint.toml" (.file [0xFF]) =
        ⟨[], .broken (.undecodable ⟨0, [0xFF], .invalidStart⟩)⟩ ∧
      lintBeside "pyproject.toml" (.file (Text.encode "tool = 3".toList)) =
        ⟨[], .broken (.noFields "int")⟩ ∧
      lintBeside "pyproject.toml" (.file (Text.encode "tool.stylint = 3".toList)) =
        ⟨[], .broken (.notIterable "int")⟩ ∧
      lintBeside ".stylint.toml" (.locked false .denied) =
        .refused ("Error: invalid config: Cannot read <root>/.stylint.toml: " ++
          "[Errno 13] Permission denied: '<root>/.stylint.toml'") := by
  refine ⟨rfl, ?_, ?_, ?_, ?_⟩
  all_goals decide +kernel

end CommandLine

end LineLint
