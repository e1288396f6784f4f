import LineLint.Template.Member

/- The members that stand for an operator or another built-in use of an object. One of a given name
   is described alike wherever it is found. -/
namespace LineLint.Template

def slots : List Member :=
  [.slot "__repr__" "($self, /)" ["Return repr(self)."],
   .slot "__hash__" "($self, /)" ["Return hash(self)."],
   .slot "__str__" "($self, /)" ["Return str(self)."],
   .slot "__getattribute__" "($self, name, /)" ["Return getattr(self, name)."],
   .slot "__lt__" "($self, value, /)" ["Return self<value."],
   .slot "__le__" "($self, value, /)" ["Return self<=value."],
   .slot "__eq__" "($self, value, /)" ["Return self==value."],
   .slot "__ne__" "($self, value, /)" ["Return self!=value."],
   .slot "__gt__" "($self, value, /)" ["Return self>value."],
   .slot "__ge__" "($self, value, /)" ["Return self>=value."],
   .slot "__iter__" "($self, /)" ["Implement iter(self)."],
   .slot "__mod__" "($self, value, /)" ["Return self%value."],
   .slot "__rmod__" "($self, value, /)" ["Return value%self."],
   .slot "__len__" "($self, /)" ["Return len(self)."],
   .slot "__getitem__" "($self, key, /)" ["Return self[key]."],
   .slot "__add__" "($self, value, /)" ["Return self+value."],
   .slot "__mul__" "($self, value, /)" ["Return self*value."],
   .slot "__rmul__" "($self, value, /)" ["Return value*self."],
   .slot "__contains__" "($self, key, /)" ["Return key in self."],
   .slot "__setattr__" "($self, name, value, /)" ["Implement setattr(self, name, value)."],
   .slot "__delattr__" "($self, name, /)" ["Implement delattr(self, name)."],
   .slot "__init__" "($self, /, *args, **kwargs)"
     ["Initialize self.  See help(type(self)) for accurate signature."],
   .slot "__call__" "($self, /, *args, **kwargs)" ["Call self as a function."],
   .slot "__or__" "($self, value, /)" ["Return self|value."],
   .slot "__ror__" "($self, value, /)" ["Return value|self."],
   .slot "__get__" "($self, instance, owner=None, /)"
     ["Return an attribute of instance, which is of type owner."],
   .slot "__set__" "($self, instance, value, /)" ["Set an attribute of instance to value."],
   .slot "__delete__" "($self, instance, /)" ["Delete an attribute of instance."],
   .slot "__radd__" "($self, value, /)" ["Return value+self."],
   .slot "__sub__" "($self, value, /)" ["Return self-value."],
   .slot "__rsub__" "($self, value, /)" ["Return value-self."],
   .slot "__divmod__" "($self, value, /)" ["Return divmod(self, value)."],
   .slot "__rdivmod__" "($self, value, /)" ["Return divmod(value, self)."],
   .slot "__pow__" "($self, value, mod=None, /)" ["Return pow(self, value, mod)."],
   .slot "__rpow__" "($self, value, mod=None, /)" ["Return pow(value, self, mod)."],
   .slot "__neg__" "($self, /)" ["-self"],
   .slot "__pos__" "($self, /)" ["+self"],
   .slot "__abs__" "($self, /)" ["abs(self)"],
   .slot "__bool__" "($self, /)" ["True if self else False"],
   .slot "__invert__" "($self, /)" ["~self"],
   .slot "__lshift__" "($self, value, /)" ["Return self<<value."],
   .slot "__rlshift__" "($self, value, /)" ["Return value<<self."],
   .slot "__rshift__" "($self, value, /)" ["Return self>>value."],
   .slot "__rrshift__" "($self, value, /)" ["Return value>>self."],
   .slot "__and__" "($self, value, /)" ["Return self&value."],
   .slot "__rand__" "($self, value, /)" ["Return value&self."],
   .slot "__xor__" "($self, value, /)" ["Return self^value."],
   .slot "__rxor__" "($self, value, /)" ["Return value^self."],
   .slot "__int__" "($self, /)" ["int(self)"],
   .slot "__float__" "($self, /)" ["float(self)"],
   .slot "__floordiv__" "($self, value, /)" ["Return self//value."],
   .slot "__rfloordiv__" "($self, value, /)" ["Return value//self."],
   .slot "__truediv__" "($self, value, /)" ["Return self/value."],
   .slot "__rtruediv__" "($self, value, /)" ["Return value/self."],
   .slot "__index__" "($self, /)"
     ["Return self converted to an integer, if self is suitable for use as an index " ++
        "into a list."],
   .slot "__ior__" "($self, value, /)" ["Return self|=value."],
   .slot "__setitem__" "($self, key, value, /)" ["Set self[key] to value."],
   .slot "__delitem__" "($self, key, /)" ["Delete self[key]."]]

def slotsNamed (names : List String) : List Member :=
  names.filterMap fun name => slots.find? fun slot => slot.name = name

end LineLint.Template
