/- The groups that rules are listed under. -/
namespace LineLint

inductive Category where
  | whitespace
  | grammar
  | naming
  | optionals
  deriving DecidableEq, Repr

namespace Category

def all : List Category := [.whitespace, .grammar, .naming, .optionals]

def name : Category → String
  | .whitespace => "whitespace"
  | .grammar => "syntax"
  | .naming => "naming"
  | .optionals => "optionals"

def title : Category → String
  | .whitespace => "Whitespace"
  | .grammar => "Syntax"
  | .naming => "Naming"
  | .optionals => "Optionals"

def ofName? (s : String) : Option Category := all.find? fun category => category.name = s

theorem of_name_name (category : Category) : ofName? category.name = some category := by
  cases category <;> decide

theorem title_inj {category other : Category} :
    category.title = other.title ↔ category = other := by
  cases category <;> cases other <;> decide

end Category

/-- A rule's group: one of the categories, or a word of the rule's own. The two are the same group
    if they have the same text. -/
inductive Group where
  | category (c : Category)
  | word (s : String)
  deriving DecidableEq, Repr

def Group.text : Group → String
  | .category c => c.name
  | .word s => s

end LineLint
