import LineLint.Template.Object
import LineLint.Text.Quoted

/- The texts of objects. -/
namespace LineLint.Template

def address : String := "0x7f0000000000"

def operationText (name : String) (receiver : Kind) : String :=
  "<built-in method " ++ name ++ " of " ++ receiver.name ++ " object at " ++ address ++ ">"

def descriptorText (owner : Kind) (m : Member) : String :=
  let named (noun : String) :=
    "<" ++ noun ++ " '" ++ m.name ++ "' of '" ++ owner.name ++ "' objects>"
  match m.form with
  | .slot => named "slot wrapper"
  | .property => named "attribute"
  | .field => named "member"
  | .staticMethod => "<staticmethod(" ++ operationText m.name .kind ++ ")>"
  | _ => named "method"

def heldText (owner : Kind) (m : Member) : String :=
  match m.form with
  | .creator => operationText m.name .kind
  | .ownDoc => Text.quoted m.docText
  | .absent => "None"
  | _ => descriptorText owner m

def tableText (k : Kind) : String :=
  "\x7b" ++
    ", ".intercalate (k.members.map fun m => Text.quoted m.name ++ ": " ++ heldText k m) ++ "\x7d"

def kindText (k : Kind) : String := "<class '" ++ k.name ++ "'>"

def tupleText : List String → String
  | [item] => "(" ++ item ++ ",)"
  | items => "(" ++ ", ".intercalate items ++ ")"

namespace Object

mutual

def quoted (shown : Char → Bool) : Object → String
  | .text cs => String.ofList (Text.quoteWith shown cs)
  | .integer n => toString n
  | .truth true => "True"
  | .truth false => "False"
  | .nothing => "None"
  | .kind k => kindText k
  | .tuple items => tupleText (quotedItems shown items)
  | .memberTable k => "mappingproxy(" ++ tableText k ++ ")"
  | .emptyTable => "\x7b\x7d"
  | .alias origin argument => origin.name ++ "[" ++ quoted shown argument ++ "]"
  | .operation receiver m => operationText m.name receiver.kindOf
  | .boundSlot receiver _ m =>
      "<method-wrapper '" ++ m.name ++ "' of " ++ receiver.kindOf.name ++ " object at " ++
        address ++ ">"
  | .descriptor owner m => descriptorText owner m

def quotedItems (shown : Char → Bool) : List Object → List String
  | [] => []
  | item :: items => quoted shown item :: quotedItems shown items

end

def plain : Object → List Char
  | .text cs => cs
  | .memberTable k => (tableText k).toList
  | o => (o.quoted Text.isPrintable).toList

end Object

end LineLint.Template
