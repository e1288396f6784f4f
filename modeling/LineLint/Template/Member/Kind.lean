import LineLint.Template.Member.Slot

/- What every object can be asked for, and what kinds can be asked for besides. -/
namespace LineLint.Template

def objectMembers : List Member :=
  [.creator] ++
  slotsNamed
    ["__repr__", "__hash__", "__str__", "__getattribute__", "__setattr__", "__delattr__",
     "__lt__", "__le__", "__eq__", "__ne__", "__gt__", "__ge__", "__init__"] ++
  ([.method "__reduce_ex__" (some "($self, protocol, /)") ["Helper for pickle."],
   .method "__reduce__" selfOnly ["Helper for pickle."],
   .method "__getstate__" selfOnly ["Helper for pickle."],
   .kindMethod "__subclasshook__" none
     ["Abstract classes can override this to customize issubclass().", "",
      "This is invoked early on by abc.ABCMeta.__subclasscheck__().",
      "It should return True, False or NotImplemented.  If it returns",
      "NotImplemented, the normal algorithm is used.  Otherwise, it",
      "overrides the normal algorithm (and the outcome is cached).", ""],
   .kindMethod "__init_subclass__" none
     ["This method is called when a class is subclassed.", "",
      "The default implementation does nothing. It may be", "overridden to extend subclasses.",
      ""],
   .method "__format__" (some "($self, format_spec, /)") ["Default object formatter."],
   .method "__sizeof__" selfOnly ["Size of object in memory, in bytes."],
   .method "__dir__" selfOnly ["Default dir() implementation."],
   .property "__class__" ["the object's class"],
   .ownDoc
     ["The base class of the class hierarchy.", "",
      "When called, it accepts no arguments and returns a new featureless",
      "instance that has no instance attributes and cannot be given any.", ""]] : List Member)

def kindMembers : List Member :=
  [.creator] ++
  slotsNamed
    ["__repr__", "__call__", "__getattribute__", "__setattr__", "__delattr__", "__init__",
     "__or__", "__ror__"] ++
  ([.method "mro" selfOnly ["Return a type's method resolution order."],
   .method "__subclasses__" selfOnly ["Return a list of immediate subclasses."],
   .kindMethod "__prepare__" none
     ["__prepare__() -> dict", "used to create the namespace for the class statement"],
   .method "__instancecheck__" (some "($self, instance, /)") ["Check if an object is an instance."],
   .method "__subclasscheck__" (some "($self, subclass, /)") ["Check if a class is a subclass."],
   .method "__dir__" selfOnly ["Specialized __dir__ implementation for types."],
   .method "__sizeof__" selfOnly ["Return memory consumption of the type object."],
   .field "__basicsize__" [], .field "__itemsize__" [], .field "__flags__" [],
   .field "__weakrefoffset__" [], .field "__base__" [], .field "__dictoffset__" [],
   .field "__mro__" [], .property "__name__" [], .property "__qualname__" [],
   .property "__bases__" [], .property "__module__" [], .property "__abstractmethods__" [],
   .property "__dict__" [], .property "__doc__" [], .property "__text_signature__" [],
   .property "__annotations__" []] : List Member)

end LineLint.Template
