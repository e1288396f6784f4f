/- Members: what the objects of a kind can be asked for by name. -/
namespace LineLint.Template

/-- What a member gives. An operation or a slot is bound to the object that is asked, an operation
    of the kind to the object's kind, and a free one to the kind that the member belongs to. A
    property or a field gives what the object holds. The kind's own description is a member too. -/
inductive Form where
  | creator
  | method
  | slot
  | property
  | field
  | kindMethod
  | staticMethod
  | ownDoc
  | absent
  deriving DecidableEq, Repr

/-- A member, with its signature and the lines of its description, as far as it has them. -/
structure Member where
  name : String
  form : Form
  signature : Option String
  doc : List String
  deriving DecidableEq, Repr

def selfOnly : Option String := some "($self, /)"

namespace Member

def creator : Member :=
  ⟨"__new__", .creator, some "($type, *args, **kwargs)",
    ["Create and return a new object.  See help(type) for accurate signature."]⟩

def method (name : String) (signature : Option String) (doc : List String) : Member :=
  ⟨name, .method, signature, doc⟩

def slot (name signature : String) (doc : List String) : Member :=
  ⟨name, .slot, some signature, doc⟩

def property (name : String) (doc : List String) : Member := ⟨name, .property, none, doc⟩

def field (name : String) (doc : List String) : Member := ⟨name, .field, none, doc⟩

def kindMethod (name : String) (signature : Option String) (doc : List String) : Member :=
  ⟨name, .kindMethod, signature, doc⟩

def staticMethod (name : String) (signature : Option String) (doc : List String) : Member :=
  ⟨name, .staticMethod, signature, doc⟩

def ownDoc (doc : List String) : Member := ⟨"__doc__", .ownDoc, none, doc⟩

def absent (name : String) : Member := ⟨name, .absent, none, []⟩

def docText (m : Member) : String := "\n".intercalate m.doc

end Member

end LineLint.Template
