import LineLint.Template.Member.Slot

/- What a kind with an argument can be asked for. -/
namespace LineLint.Template

def aliasMembers : List Member :=
  [.creator] ++
  slotsNamed
    ["__repr__", "__hash__", "__call__", "__getattribute__", "__lt__", "__le__", "__eq__",
     "__ne__", "__gt__", "__ge__", "__iter__", "__or__", "__ror__", "__getitem__"] ++
  ([.method "__mro_entries__" none [], .method "__instancecheck__" none [],
   .method "__subclasscheck__" none [], .method "__reduce__" none [], .method "__dir__" none [],
   .field "__origin__" [], .field "__args__" [], .field "__unpacked__" [],
   .property "__parameters__" ["Type variables in the GenericAlias."],
   .property "__typing_unpacked_tuple_args__" [],
   .ownDoc
     ["Represent a PEP 585 generic type", "",
      "E.g. for t = list[int], t.__origin__ is list and t.__args__ is (int,)."]] : List Member)

end LineLint.Template
