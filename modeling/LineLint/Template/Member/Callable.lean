import LineLint.Template.Member.Slot

/- What members themselves can be asked for, once they are bound to an object or taken from the
   kind that they belong to. -/
namespace LineLint.Template

def operationMembers : List Member :=
  slotsNamed
    ["__repr__", "__hash__", "__call__", "__getattribute__", "__lt__", "__le__", "__eq__",
     "__ne__", "__gt__", "__ge__"] ++
  ([.method "__reduce__" none [], .field "__module__" [], .property "__doc__" [],
   .property "__name__" [], .property "__qualname__" [], .property "__self__" [],
   .property "__text_signature__" []] : List Member)

def boundSlotMembers : List Member :=
  slotsNamed
    ["__repr__", "__hash__", "__call__", "__getattribute__", "__lt__", "__le__", "__eq__",
     "__ne__", "__gt__", "__ge__"] ++
  ([.method "__reduce__" none [], .field "__self__" [], .property "__objclass__" [],
   .property "__name__" [], .property "__qualname__" [], .property "__doc__" [],
   .property "__text_signature__" []] : List Member)

def methodMembers : List Member :=
  slotsNamed ["__repr__", "__call__", "__getattribute__", "__get__"] ++
  ([.method "__reduce__" none [], .field "__objclass__" [], .field "__name__" [],
   .property "__doc__" [], .property "__qualname__" [],
   .property "__text_signature__" []] : List Member)

def slotMembers : List Member :=
  slotsNamed ["__repr__", "__call__", "__getattribute__", "__get__"] ++
  ([.method "__reduce__" none [], .field "__objclass__" [], .field "__name__" [],
   .property "__doc__" [], .property "__qualname__" [],
   .property "__text_signature__" []] : List Member)

def propertyMembers : List Member :=
  slotsNamed ["__repr__", "__getattribute__", "__get__", "__set__", "__delete__"] ++
  ([.field "__objclass__" [], .field "__name__" [], .property "__doc__" [],
   .property "__qualname__" []] : List Member)

def fieldMembers : List Member :=
  slotsNamed ["__repr__", "__getattribute__", "__get__", "__set__", "__delete__"] ++
  ([.method "__reduce__" none [], .field "__objclass__" [], .field "__name__" [],
   .property "__doc__" [], .property "__qualname__" []] : List Member)

def kindMethodMembers : List Member :=
  slotsNamed ["__repr__", "__call__", "__getattribute__", "__get__"] ++
  ([.field "__objclass__" [], .field "__name__" [], .property "__doc__" [],
   .property "__qualname__" [], .property "__text_signature__" []] : List Member)

def staticMethodMembers : List Member :=
  [.creator] ++
  slotsNamed ["__repr__", "__call__", "__get__", "__init__"] ++
  ([.field "__func__" [], .field "__wrapped__" [], .property "__isabstractmethod__" [],
   .property "__dict__" [],
   .ownDoc
     ["staticmethod(function) -> method", "", "Convert a function to be a static method.", "",
      "A static method does not receive an implicit first argument.",
      "To declare a static method, use this idiom:", "", "     class C:",
      "         @staticmethod", "         def f(arg1, arg2, argN):", "             ...", "",
      "It can be called either on the class (e.g. C.f()) or on an instance",
      "(e.g. C().f()). Both the class and the instance are ignored, and",
      "neither is passed implicitly as the first argument to the method.", "",
      "Static methods in Python are similar to those found in Java or C++.",
      "For a more advanced concept, see the classmethod builtin."]] : List Member)

end LineLint.Template
