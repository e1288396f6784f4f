import LineLint.Template.Describe
import LineLint.Template.Fault

/- Items of objects: characters of texts, parts of tuples, members in a table. A kind is not asked
   for an item but given an argument. -/
namespace LineLint.Template

def Kind.withArgument (k : Kind) (argument : Object) : Except Fault Object :=
  if k.takesArgument then .ok (.alias k argument) else .error (.noArgument k)

def Object.itemAt (o : Object) (n : Nat) : Except Fault Object :=
  match o with
  | .text cs =>
      match cs[n]? with
      | some c => .ok (.text [c])
      | none => .error .indexRange
  | .tuple items =>
      match items[n]? with
      | some item => .ok item
      | none => .error .tupleRange
  | .memberTable _ => .error (.noKey (toString n))
  | .emptyTable => .error (.noKey (toString n))
  | .kind k => k.withArgument (.integer n)
  | .alias _ _ => .error (.notGeneric (o.quoted Text.isPrintable))
  | _ => .error (.noItems o.kindOf)

def Object.itemNamed (o : Object) (name : List Char) : Except Fault Object :=
  match o with
  | .text _ => .error .textIndex
  | .tuple _ => .error .tupleIndex
  | .memberTable k =>
      match k.member? (String.ofList name) with
      | some m => .ok (m.held k)
      | none => .error (.noKey (Text.quoted (String.ofList name)))
  | .emptyTable => .error (.noKey (Text.quoted (String.ofList name)))
  | .kind k => k.withArgument (.text name)
  | .alias _ _ => .error (.notGeneric (o.quoted Text.isPrintable))
  | _ => .error (.noItems o.kindOf)

end LineLint.Template
