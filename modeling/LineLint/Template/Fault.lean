import LineLint.Template.Kind

/- What can be wrong with a summary template, or with the values it is filled with. -/
namespace LineLint.Template

inductive Fault where
  | loneOpen
  | loneClose
  | openInName
  | unclosedField
  | missingConversion
  | colonExpected
  | unclosedSpec
  | tooDeep
  | positional
  | tooManyDigits
  | missingBracket
  | badFollower
  | emptyStep
  | noAttribute (k : Kind) (name : List Char)
  | noKindAttribute (k : Kind) (name : List Char)
  | noAbstractNames
  | indexRange
  | textIndex
  | tupleRange
  | tupleIndex
  | noKey (key : String)
  | noItems (k : Kind)
  | noArgument (k : Kind)
  | notGeneric (text : String)
  | unknownConversion (c : Char)
  | unformatted (k : Kind)
  | invalidSpec (spec : List Char) (k : Kind)
  | missingPrecision
  | bothSeparators
  | separatorWith (separator type : Char)
  | unknownType (type : Char) (k : Kind)
  | signNotAllowed
  | spaceNotAllowed
  | zeroNotAllowed
  | alternateNotAllowed
  | equalsNotAllowed
  | precisionOfInteger
  | zeroOfInteger
  | signOfCharacter
  | alternateOfCharacter
  | characterRange
  | longPrecision
  | tooWide
  deriving DecidableEq, Repr

def characterText (last : Nat) (c : Char) : String :=
  if 32 < c.toNat ∧ c.toNat < last then String.singleton c
  else "\\x" ++ String.ofList (Nat.toDigits 16 c.toNat)

def Fault.message : Fault → String
  | .loneOpen => "Single '\x7b' encountered in format string"
  | .loneClose => "Single '\x7d' encountered in format string"
  | .openInName => "unexpected '\x7b' in field name"
  | .unclosedField => "expected '\x7d' before end of string"
  | .missingConversion => "end of string while looking for conversion specifier"
  | .colonExpected => "expected ':' after conversion specifier"
  | .unclosedSpec => "unmatched '\x7b' in format spec"
  | .tooDeep => "Max string recursion exceeded"
  | .positional => "Format string contains positional fields"
  | .tooManyDigits => "Too many decimal digits in format string"
  | .missingBracket => "Missing ']' in format string"
  | .badFollower => "Only '.' or '[' may follow ']' in format field specifier"
  | .emptyStep => "Empty attribute in format string"
  | .noAttribute k name =>
      "'" ++ k.name ++ "' object has no attribute '" ++ String.ofList name ++ "'"
  | .noKindAttribute k name =>
      "type object '" ++ k.name ++ "' has no attribute '" ++ String.ofList name ++ "'"
  | .noAbstractNames => "__abstractmethods__"
  | .indexRange => "string index out of range"
  | .textIndex => "string indices must be integers, not 'str'"
  | .tupleRange => "tuple index out of range"
  | .tupleIndex => "tuple indices must be integers or slices, not str"
  | .noKey key => key
  | .noItems k => "'" ++ k.name ++ "' object is not subscriptable"
  | .noArgument k => "type '" ++ k.name ++ "' is not subscriptable"
  | .notGeneric text => text ++ " is not a generic class"
  | .unknownConversion c => "Unknown conversion specifier " ++ characterText 127 c
  | .unformatted k => "unsupported format string passed to " ++ k.name ++ ".__format__"
  | .invalidSpec spec k =>
      "Invalid format specifier '" ++ String.ofList spec ++ "' for object of type '" ++
        k.name ++ "'"
  | .missingPrecision => "Format specifier missing precision"
  | .bothSeparators => "Cannot specify both ',' and '_'."
  | .separatorWith separator type =>
      "Cannot specify '" ++ String.singleton separator ++ "' with '" ++
        characterText 128 type ++ "'."
  | .unknownType type k =>
      "Unknown format code '" ++ characterText 128 type ++ "' for object of type '" ++
        k.name ++ "'"
  | .signNotAllowed => "Sign not allowed in string format specifier"
  | .spaceNotAllowed => "Space not allowed in string format specifier"
  | .zeroNotAllowed => "Negative zero coercion (z) not allowed in string format specifier"
  | .alternateNotAllowed => "Alternate form (#) not allowed in string format specifier"
  | .equalsNotAllowed => "'=' alignment not allowed in string format specifier"
  | .precisionOfInteger => "Precision not allowed in integer format specifier"
  | .zeroOfInteger => "Negative zero coercion (z) not allowed in integer format specifier"
  | .signOfCharacter => "Sign not allowed with integer format specifier 'c'"
  | .alternateOfCharacter => "Alternate form (#) not allowed with integer format specifier 'c'"
  | .characterRange => "%c arg not in range(0x110000)"
  | .longPrecision => "precision too big"
  | .tooWide => ""

end LineLint.Template
