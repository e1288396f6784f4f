import LineLint.Template.Fault
import LineLint.Template.Property

/- Attributes of objects. They are found by the members of an object's kind; kinds also give what
   they have for their own objects. -/
namespace LineLint.Template

def Member.holdsValue (m : Member) : Bool := m.form = .property || m.form = .field

def Object.give? (o : Object) (owner : Kind) (m : Member) : Option Object :=
  match m.form with
  | .method => some (.operation o m)
  | .slot => some (.boundSlot o owner m)
  | .kindMethod => some (.operation (.kind o.kindOf) m)
  | .staticMethod => some (.operation (.kind owner) m)
  | .property => o.property? m.name
  | .field => o.property? m.name
  | _ => some (m.held owner)

def Kind.give (k owner : Kind) (m : Member) : Object :=
  match m.form with
  | .kindMethod => .operation (.kind k) m
  | .staticMethod => .operation (.kind owner) m
  | _ => m.held owner

/-- An attribute of a kind. What all kinds hold goes first, then come the members of the kind's own
    objects, and then the other members of all kinds. -/
def Kind.attribute? (k : Kind) (name : String) : Option Object :=
  let general := Kind.kind.lookUp name
  match general.filter fun found => found.2.holdsValue, k.lookUp name with
  | some _, _ => (Object.kind k).property? name
  | none, some (owner, m) => some (k.give owner m)
  | none, none => general.bind fun found => (Object.kind k).give? found.1 found.2

def Kind.attribute (k : Kind) (name : List Char) : Except Fault Object :=
  let text := String.ofList name
  match k.attribute? text with
  | some o => .ok o
  | none =>
      if text = "__abstractmethods__" then .error .noAbstractNames
      else .error (.noKindAttribute k name)

def aliasOwnNames : List String :=
  ["__class__", "__bases__", "__origin__", "__args__", "__unpacked__", "__parameters__",
   "__typing_unpacked_tuple_args__", "__mro_entries__", "__reduce_ex__", "__reduce__",
   "__copy__", "__deepcopy__"]

def Object.ordinary (o : Object) (name : List Char) : Except Fault Object :=
  match (o.kindOf.lookUp (String.ofList name)).bind fun found => o.give? found.1 found.2 with
  | some value => .ok value
  | none => .error (.noAttribute o.kindOf name)

def Object.attribute (o : Object) (name : List Char) : Except Fault Object :=
  match o with
  | .kind k => k.attribute name
  | .alias origin _ =>
      if aliasOwnNames.contains (String.ofList name) then o.ordinary name
      else origin.attribute name
  | _ => o.ordinary name

end LineLint.Template
