import LineLint.CommandLine.Fault
import LineLint.Files
import LineLint.Path
import LineLint.Text.Similar

/- The words of a command line. A word that begins with a dash and goes on is an option; two dashes
   alone end the options. -/
namespace LineLint.CommandLine

/-- What an option takes. One that takes no value may also be written by a letter. -/
inductive OptionKind where
  | flag (letter : Option Char)
  | free
  | path
  | choice (values : List String)
  deriving DecidableEq, Repr

structure OptionForm where
  name : String
  kind : OptionKind
  deriving DecidableEq, Repr

namespace OptionForm

def takesValue (form : OptionForm) : Bool :=
  match form.kind with
  | .flag _ => false
  | _ => true

def letter? (form : OptionForm) : Option Char :=
  match form.kind with
  | .flag letter => letter
  | _ => none

end OptionForm

structure GivenOption where
  name : String
  value : Option String
  deriving DecidableEq, Repr

structure Words where
  given : List GivenOption
  others : List String
  deriving DecidableEq, Repr

namespace Words

def has (words : Words) (name : String) : Bool := words.given.any fun option => option.name = name

def value? (words : Words) (name : String) : Option String :=
  (words.given.reverse.find? fun option => option.name = name).bind GivenOption.value

def withOptions (options : List GivenOption) (words : Words) : Words :=
  { words with given := options ++ words.given }

def withOther (word : String) (words : Words) : Words :=
  { words with others := word :: words.others }

end Words

def nameAndValue (word : String) : String × Option String :=
  match word.toList.span (· ≠ '=') with
  | (name, _ :: value) => (String.ofList name, some (String.ofList value))
  | (name, []) => (String.ofList name, none)

/-- What an option word comes to: options, or one that has its value in the next word. -/
inductive OptionWord where
  | complete (options : List GivenOption)
  | awaiting (name : String)
  deriving DecidableEq, Repr

def readLetters (forms : List OptionForm) : List Char → Except UsageFault (List GivenOption)
  | [] => .ok []
  | c :: rest =>
      match forms.find? fun form => form.letter? = some c with
      | none => .error (.unknownOption (String.ofList ['-', c]) [])
      | some form => (readLetters forms rest).map (⟨form.name, none⟩ :: ·)

def readNamed (form : OptionForm) (value : Option String) : Except UsageFault OptionWord :=
  match form.takesValue, value with
  | true, some value => .ok (.complete [⟨form.name, some value⟩])
  | true, none => .ok (.awaiting form.name)
  | false, some _ => .error (.unwantedValue form.name)
  | false, none => .ok (.complete [⟨form.name, none⟩])

/-- Names are tried first. A word that names no option and does not begin with two dashes is made
    of letters. -/
def readOption (forms : List OptionForm) (word : String) : Except UsageFault OptionWord :=
  let (name, value) := nameAndValue word
  match forms.find? fun form => form.name = name with
  | some form => readNamed form value
  | none =>
      match word.toList with
      | '-' :: '-' :: _ =>
          .error (.unknownOption name (Text.closest name (forms.map OptionForm.name)))
      | _ :: letters => (readLetters forms letters).map .complete
      | [] => .ok (.complete [])

def isOptionWord (word : String) : Bool :=
  match word.toList with
  | '-' :: _ :: _ => true
  | _ => false

/-- Reads the words from left to right. If options and other words are not `mixed`, the first other
    word ends the options. The word after an option that awaits its value is that value, whatever it
    looks like. -/
def readWords (forms : List OptionForm) (mixed : Bool) : List String → Except UsageFault Words
  | [] => .ok ⟨[], []⟩
  | word :: rest =>
      if word = "--" then .ok ⟨[], rest⟩
      else if isOptionWord word then
        match readOption forms word with
        | .error fault => .error fault
        | .ok (.complete options) => (readWords forms mixed rest).map (Words.withOptions options)
        | .ok (.awaiting name) =>
            match rest with
            | [] => .error (.missingValue name)
            | value :: rest =>
                (readWords forms mixed rest).map (Words.withOptions [⟨name, some value⟩])
      else if mixed then (readWords forms mixed rest).map (Words.withOther word)
      else .ok ⟨[], word :: rest⟩

section Checks

variable (files : Files) (forms : List OptionForm) (words : Words)

/-- The fault of an option's value: it is none of the choices, or a path that no file has or that may
    not be read. -/
def valueFault? (name : String) : Option CallFault :=
  match forms.find? fun form => form.name = name, words.value? name with
  | some ⟨_, .choice values⟩, some value =>
      if values.contains value then none else some (.usage (.notChoice name value values))
  | some ⟨_, .path⟩, some value =>
      if Path.holdsNull value then some (.unchecked .nullByte)
      else if files.isDenied value then some (.usage (.unreadablePath name value))
      else none
  | _, _ => none

def checkValues : Except CallFault Unit :=
  match words.given.findSome? fun option => valueFault? files forms words option.name with
  | some fault => .error fault
  | none => .ok ()

end Checks

end LineLint.CommandLine
