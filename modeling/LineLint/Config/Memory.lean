import LineLint.Config

/- A memory of which rules configurations allow. A configuration is kept with the filters that its
   patterns come to, and a question is answered from the memory if it was asked before: of a
   configuration with the same fields, its lists read as sets, and of a rule that is the same in
   everything but the matcher. -/
namespace LineLint

/-- A configuration with the filters made for it. -/
structure PreparedConfig where
  fields : Config
  included : IdFilter
  excluded : IdFilter
  deriving DecidableEq, Repr

structure ConfigChanges where
  minSeverity : Option Severity
  includeRules : Option (List String)
  excludeRules : Option (List String)
  categories : Option (List String)
  deriving DecidableEq, Repr

def ConfigChanges.apply (changes : ConfigChanges) (fields : Config) : Config :=
  { minSeverity := changes.minSeverity.getD fields.minSeverity
    includeRules := changes.includeRules.getD fields.includeRules
    excludeRules := changes.excludeRules.getD fields.excludeRules
    categories := changes.categories.getD fields.categories }

namespace PreparedConfig

def ofConfig (fields : Config) : PreparedConfig :=
  ⟨fields, .ofPatterns (Text.sortedNames fields.includeRules),
    .ofPatterns (Text.sortedNames fields.excludeRules)⟩

def replace (config : PreparedConfig) (changes : ConfigChanges) : PreparedConfig :=
  ofConfig (changes.apply config.fields)

def allows (config : PreparedConfig) (rule : Rule) : Bool :=
  if !rule.severity.atLeast config.fields.minSeverity then false
  else if !config.fields.coversGroup rule.group then false
  else if !config.fields.includeRules.isEmpty && !config.included.accepts rule.id then false
  else !config.excluded.accepts rule.id

def sameNames (names others : List String) : Bool :=
  names.all others.contains && others.all names.contains

def agrees (config other : PreparedConfig) : Bool :=
  config.fields.minSeverity == other.fields.minSeverity &&
    sameNames config.fields.includeRules other.fields.includeRules &&
    sameNames config.fields.excludeRules other.fields.excludeRules &&
    sameNames config.fields.categories other.fields.categories

end PreparedConfig

structure Remembered where
  config : PreparedConfig
  rule : Rule
  answer : Bool

structure Memory where
  entries : List Remembered

namespace Memory

def empty : Memory := ⟨[]⟩

def answer? (memory : Memory) (config : PreparedConfig) (rule : Rule) : Option Bool :=
  (memory.entries.find? fun entry => entry.config.agrees config && entry.rule.agrees rule).map
    Remembered.answer

def ask (memory : Memory) (config : PreparedConfig) (rule : Rule) : Bool × Memory :=
  match memory.answer? config rule with
  | some answer => (answer, memory)
  | none =>
      let answer := config.allows rule
      (answer, ⟨⟨config, rule, answer⟩ :: memory.entries⟩)

def askAll (memory : Memory) : List (PreparedConfig × Rule) → List Bool × Memory
  | [] => ([], memory)
  | (config, rule) :: rest =>
      let asked := memory.ask config rule
      let later := asked.2.askAll rest
      (asked.1 :: later.1, later.2)

end Memory

end LineLint
