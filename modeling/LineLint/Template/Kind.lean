import LineLint.Template.Member.Alias
import LineLint.Template.Member.Callable
import LineLint.Template.Member.Container
import LineLint.Template.Member.Kind
import LineLint.Template.Member.Number
import LineLint.Template.Member.Text

/- Kinds of objects. Every kind has a line of more general ones above it, and its objects have the
   members of all of them; of members of one name, that of the nearest kind counts. -/
namespace LineLint.Template

/-- The kinds that can be reached from a text. Operations and slots are of another kind where they
    are bound to an object than where they are taken from the kind they belong to. -/
inductive Kind where
  | text
  | object
  | kind
  | operation
  | boundSlot
  | method
  | slot
  | property
  | field
  | kindMethod
  | staticMethod
  | tuple
  | integer
  | truth
  | nothing
  | memberTable
  | dictionary
  | alias
  deriving DecidableEq, Repr

/-- The numbers that a kind holds about itself: sizes of its objects and of their items, flags, and
    the places of two references. -/
structure Layout where
  size : Nat
  itemSize : Nat
  flags : Nat
  tablePlace : Nat
  referencePlace : Nat
  deriving DecidableEq, Repr

namespace Kind

def name : Kind → String
  | .text => "str"
  | .object => "object"
  | .kind => "type"
  | .operation => "builtin_function_or_method"
  | .boundSlot => "method-wrapper"
  | .method => "method_descriptor"
  | .slot => "wrapper_descriptor"
  | .property => "getset_descriptor"
  | .field => "member_descriptor"
  | .kindMethod => "classmethod_descriptor"
  | .staticMethod => "staticmethod"
  | .tuple => "tuple"
  | .integer => "int"
  | .truth => "bool"
  | .nothing => "NoneType"
  | .memberTable => "mappingproxy"
  | .dictionary => "dict"
  | .alias => "types.GenericAlias"

def title : Kind → String
  | .alias => "GenericAlias"
  | k => k.name

def moduleName : Kind → String
  | .alias => "types"
  | _ => "builtins"

def layout : Kind → Layout
  | .text => ⟨80, 0, 273159424, 0, 0⟩
  | .object => ⟨16, 0, 529664, 0, 0⟩
  | .kind => ⟨904, 40, 2148031744, 264, 368⟩
  | .operation => ⟨56, 0, 547200, 0, 40⟩
  | .boundSlot => ⟨32, 0, 545152, 0, 0⟩
  | .method => ⟨56, 0, 678272, 0, 0⟩
  | .slot => ⟨56, 0, 676224, 0, 0⟩
  | .property => ⟨48, 0, 545152, 0, 0⟩
  | .field => ⟨48, 0, 545152, 0, 0⟩
  | .kindMethod => ⟨56, 0, 545152, 0, 0⟩
  | .staticMethod => ⟨32, 0, 546048, 24, 0⟩
  | .tuple => ⟨24, 8, 71849248, 0, 0⟩
  | .integer => ⟨24, 4, 21501184, 0, 0⟩
  | .truth => ⟨32, 4, 21500160, 0, 0⟩
  | .nothing => ⟨16, 0, 528640, 0, 0⟩
  | .memberTable => ⟨24, 0, 545088, 0, 0⟩
  | .dictionary => ⟨48, 0, 541611328, 0, 0⟩
  | .alias => ⟨64, 0, 548096, 0, 40⟩

def signature? : Kind → Option String
  | .object => some "()"
  | .tuple => some "(iterable=(), /)"
  | _ => none

def parent? : Kind → Option Kind
  | .object => none
  | .truth => some .integer
  | _ => some .object

def ancestry : Kind → List Kind
  | .object => [.object]
  | .truth => [.truth, .integer, .object]
  | k => [k, .object]

def members : Kind → List Member
  | .text => textMembers
  | .object => objectMembers
  | .kind => kindMembers
  | .operation => operationMembers
  | .boundSlot => boundSlotMembers
  | .method => methodMembers
  | .slot => slotMembers
  | .property => propertyMembers
  | .field => fieldMembers
  | .kindMethod => kindMethodMembers
  | .staticMethod => staticMethodMembers
  | .tuple => tupleMembers
  | .integer => integerMembers
  | .truth => truthMembers
  | .nothing => nothingMembers
  | .memberTable => memberTableMembers
  | .dictionary => dictionaryMembers
  | .alias => aliasMembers

def member? (k : Kind) (name : String) : Option Member :=
  k.members.find? fun m => m.name = name

def lookUp (k : Kind) (name : String) : Option (Kind × Member) :=
  k.ancestry.findSome? fun owner => (owner.member? name).map fun m => (owner, m)

def takesArgument (k : Kind) : Bool :=
  k = .kind || (k.lookUp "__class_getitem__").isSome

end Kind

end LineLint.Template
