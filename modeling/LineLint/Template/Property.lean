import LineLint.Template.Object

/- What objects hold under the names of properties and fields. -/
namespace LineLint.Template

def Member.qualified (m : Member) (k : Kind) : Object := .ofString (k.title ++ "." ++ m.name)

def Object.asKind : Object → Kind
  | .kind k => k
  | o => o.kindOf

def operationProperty (receiver : Object) (m : Member) : String → Option Object
  | "__doc__" => some (.docOf m)
  | "__name__" => some (.ofString m.name)
  | "__qualname__" => some (m.qualified receiver.asKind)
  | "__self__" => some (if m.form = .staticMethod then .nothing else receiver)
  | "__text_signature__" => some (.ofOption m.signature)
  | "__module__" => some .nothing
  | _ => none

def memberProperty (owner : Kind) (m : Member) : String → Option Object
  | "__doc__" => some (.docOf m)
  | "__name__" => some (.ofString m.name)
  | "__qualname__" => some (m.qualified owner)
  | "__objclass__" => some (.kind owner)
  | "__text_signature__" => some (.ofOption m.signature)
  | "__func__" => some (.operation (.kind owner) m)
  | "__wrapped__" => some (.operation (.kind owner) m)
  | "__isabstractmethod__" => some (.truth false)
  | "__dict__" => some .emptyTable
  | _ => none

def numberProperty (n : Int) : String → Option Object
  | "real" => some (.integer n)
  | "imag" => some (.integer 0)
  | "numerator" => some (.integer n)
  | "denominator" => some (.integer 1)
  | _ => none

def kindDoc : String :=
  "type(object) -> the object's type\ntype(name, bases, dict, **kwds) -> a new type"

def kindProperty (k : Kind) : String → Option Object
  | "__name__" => some (.ofString k.title)
  | "__qualname__" => some (.ofString k.title)
  | "__module__" => some (.ofString k.moduleName)
  | "__bases__" => some (.tuple (k.parent?.toList.map .kind))
  | "__base__" => some ((k.parent?.map .kind).getD .nothing)
  | "__mro__" => some (.tuple (k.ancestry.map .kind))
  | "__dict__" => some (.memberTable k)
  | "__doc__" =>
      if k = .kind then some (.ofString kindDoc)
      else some (((k.member? "__doc__").map fun m => m.held k).getD .nothing)
  | "__text_signature__" => some (.ofOption k.signature?)
  | "__basicsize__" => some (.ofNat k.layout.size)
  | "__itemsize__" => some (.ofNat k.layout.itemSize)
  | "__flags__" => some (.ofNat k.layout.flags)
  | "__dictoffset__" => some (.ofNat k.layout.tablePlace)
  | "__weakrefoffset__" => some (.ofNat k.layout.referencePlace)
  | _ => none

def aliasProperty (origin : Kind) (argument : Object) : String → Option Object
  | "__origin__" => some (.kind origin)
  | "__args__" => some (.tuple [argument])
  | "__parameters__" => some (.tuple [])
  | "__unpacked__" => some (.truth false)
  | "__typing_unpacked_tuple_args__" => some .nothing
  | _ => none

def Object.property? (o : Object) (name : String) : Option Object :=
  if name = "__class__" then some (.kind o.kindOf)
  else
    match o with
    | .operation receiver m => operationProperty receiver m name
    | .boundSlot receiver owner m =>
        if name = "__self__" then some receiver else memberProperty owner m name
    | .descriptor owner m => memberProperty owner m name
    | .integer n => numberProperty n name
    | .truth b => numberProperty (if b then 1 else 0) name
    | .kind k => kindProperty k name
    | .alias origin argument => aliasProperty origin argument name
    | _ => none

end LineLint.Template
