import LineLint.Template.Kind

/- The objects that a template can come upon, starting from the texts it is filled with. -/
namespace LineLint.Template

/-- An operation that is bound has the object it acts on, which may be a kind; a bound slot also
    the kind that it belongs to. A descriptor is a member that is not bound. -/
inductive Object where
  | text (cs : List Char)
  | integer (n : Int)
  | truth (b : Bool)
  | nothing
  | kind (k : Kind)
  | tuple (items : List Object)
  | memberTable (k : Kind)
  | emptyTable
  | alias (origin : Kind) (argument : Object)
  | operation (receiver : Object) (member : Member)
  | boundSlot (receiver : Object) (owner : Kind) (member : Member)
  | descriptor (owner : Kind) (member : Member)
  deriving Repr

namespace Object

def ofString (s : String) : Object := .text s.toList

def ofNat (n : Nat) : Object := .integer n

def ofOption (s : Option String) : Object :=
  match s with
  | some s => .ofString s
  | none => .nothing

def docOf (m : Member) : Object := if m.doc.isEmpty then .nothing else .ofString m.docText

end Object

def Form.kind : Form → Kind
  | .creator => .operation
  | .method => .method
  | .slot => .slot
  | .property => .property
  | .field => .field
  | .kindMethod => .kindMethod
  | .staticMethod => .staticMethod
  | .ownDoc => .text
  | .absent => .nothing

def Object.kindOf : Object → Kind
  | .text _ => .text
  | .integer _ => .integer
  | .truth _ => .truth
  | .nothing => .nothing
  | .kind _ => .kind
  | .tuple _ => .tuple
  | .memberTable _ => .memberTable
  | .emptyTable => .dictionary
  | .alias _ _ => .alias
  | .operation _ _ => .operation
  | .boundSlot _ _ _ => .boundSlot
  | .descriptor _ m => m.form.kind

def Member.held (m : Member) (owner : Kind) : Object :=
  match m.form with
  | .creator => .operation (.kind owner) m
  | .ownDoc => .docOf m
  | .absent => .nothing
  | _ => .descriptor owner m

end LineLint.Template
