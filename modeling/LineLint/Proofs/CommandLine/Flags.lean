import LineLint.CommandLine

/- A command with one more flag among its words. Where the options of the program end does not hang on
   what follows the command, and a flag in front of the other words changes no value that is given. -/
namespace LineLint.CommandLine

/-- The command is called in a line, with the words in front of it and after it. Nothing is wrong with
    the options in front, and none of them asks for a notice. -/
def Calls (program : String) (front : List String) (command : Command) (rest : List String) : Prop :=
  ∃ words, readWords programForms false (front ++ command.name :: rest) = .ok words ∧
    notice? program words = none ∧ words.others = command.name :: rest

def Command.forms : Command → List OptionForm
  | .lint => lintForms
  | .rules => rulesForms

section Results

variable {ε ε' α β : Type} {result : Except ε α}

theorem map_eq_ok {f : α → β} {b : β} : result.map f = .ok b ↔ ∃ a, result = .ok a ∧ f a = b := by
  cases result <;> simp [Except.map]

theorem map_error_ok (f : ε → ε') (a : α) : (Except.ok a : Except ε α).mapError f = .ok a := rfl

theorem map_error_eq_ok {f : ε → ε'} {a : α} : result.mapError f = .ok a ↔ result = .ok a := by
  cases result with
  | error fault => exact ⟨by rintro ⟨⟩, by rintro ⟨⟩⟩
  | ok b => rw [map_error_ok, Except.ok.injEq, Except.ok.injEq]

end Results

section Front

variable {forms : List OptionForm}

theorem first_other_ends {line rest : List String} {name : String} {words : Words}
    (read : readWords forms false line = .ok words) (others : words.others = name :: rest) :
    ∃ front, line = front ++ name :: rest ∧
      ∀ after, readWords forms false (front ++ name :: after) = .ok ⟨words.given, name :: after⟩ := by
  fun_induction readWords forms false line generalizing words with
  | case1 =>
    cases read
    cases others
  | case2 more =>
    cases read
    cases others
    exact ⟨["--"], rfl, fun after => by simp [readWords]⟩
  | case3 => cases read
  | case4 word more ends option options taken ih =>
    obtain ⟨later, readLater, rfl⟩ := map_eq_ok.mp read
    obtain ⟨front, rfl, reads⟩ := ih readLater others
    refine ⟨word :: front, rfl, fun after => ?_⟩
    rw [List.cons_append, readWords, if_neg ends, if_pos option, taken]
    exact congrArg (Except.map (Words.withOptions options)) (reads after)
  | case5 => cases read
  | case6 word ends option awaiting taken value more ih =>
    obtain ⟨later, readLater, rfl⟩ := map_eq_ok.mp read
    obtain ⟨front, rfl, reads⟩ := ih readLater others
    refine ⟨word :: value :: front, rfl, fun after => ?_⟩
    rw [List.cons_append, readWords, if_neg ends, if_pos option, taken]
    exact congrArg (Except.map (Words.withOptions [⟨awaiting, some value⟩])) (reads after)
  | case7 => contradiction
  | case8 word more ends option =>
    cases read
    cases others
    refine ⟨[], rfl, fun after => ?_⟩
    rw [List.nil_append, readWords, if_neg ends, if_neg option]
    rfl

theorem of_name_name (command : Command) : Command.ofName? command.name = some command := by
  cases command <;> decide

theorem called_runs {program : String} {front rest : List String} {command : Command}
    (calls : Calls program front command rest) :
    ∃ verbose, ∀ environment after, run program environment (front ++ command.name :: after) =
      runCommand program environment verbose command after := by
  obtain ⟨words, read, silent, others⟩ := calls
  obtain ⟨front', same, reads⟩ := first_other_ends read others
  obtain rfl := List.append_cancel_right same
  refine ⟨words.has verboseForm.name, fun environment after => ?_⟩
  have nonempty : (front ++ command.name :: after).isEmpty = false := by simp
  have quiet : notice? program ⟨words.given, command.name :: after⟩ = none := silent
  unfold run withOptions
  rw [nonempty, reads after]
  simp only [quiet, of_name_name]
  rfl

end Front

/-- The words with the flag in front that says that colour is unwanted. -/
def Words.flagged (words : Words) : Words := words.withOptions [⟨noColorForm.name, none⟩]

section Flagged

variable (words : Words)

theorem read_flagged (command : Command) (line : List String) :
    readWords command.forms true (noColorForm.name :: line) =
      (readWords command.forms true line).map Words.flagged := by
  have option : isOptionWord noColorForm.name = true := by decide
  have other : noColorForm.name ≠ "--" := by decide
  have taken : readOption command.forms noColorForm.name =
      .ok (.complete [⟨noColorForm.name, none⟩]) := by
    cases command <;> rfl
  rw [readWords, if_neg other, if_pos option, taken]
  rfl

theorem has_flagged {name : String} (other : name ≠ noColorForm.name) :
    words.flagged.has name = words.has name := by
  simp [Words.has, Words.flagged, Words.withOptions, other.symm]

theorem value_flagged (name : String) : words.flagged.value? name = words.value? name := by
  unfold Words.value? Words.flagged Words.withOptions
  rw [List.reverse_append, List.find?_append]
  cases words.given.reverse.find? fun option => option.name = name with
  | some option => rfl
  | none =>
    rw [Option.none_or, List.reverse_singleton, List.find?_singleton]
    split <;> rfl

theorem check_values_flagged (files : Files) (command : Command) :
    checkValues files command.forms words.flagged = checkValues files command.forms words := by
  have fault (name : String) :
      valueFault? files command.forms words.flagged name =
        valueFault? files command.forms words name := by
    unfold valueFault?
    rw [value_flagged]
  have flagFine : valueFault? files command.forms words noColorForm.name = none := by
    unfold valueFault?
    cases command <;> rfl
  have given : words.flagged.given = ⟨noColorForm.name, none⟩ :: words.given := rfl
  unfold checkValues
  simp only [fault, given, List.findSome?_cons, flagFine]

end Flagged

end LineLint.CommandLine
