import LineLint.Json

/- The grammar of the data format: which texts spell which values. Blanks may stand around every symbol,
   a character may be escaped, and one above U+FFFF is escaped as a pair of surrogates. -/
namespace LineLint.Json

def Blanks (cs : List Char) : Prop := ∀ c ∈ cs, c = ' ' ∨ c = '\n' ∨ c = '\r' ∨ c = '\t'

def escapes : List (Char × Char) :=
  [('"', '"'), ('\\', '\\'), ('/', '/'), ('b', Char.ofNat 0x08), ('f', Char.ofNat 0x0C), ('n', '\n'),
   ('r', '\r'), ('t', '\t')]

def HexDigit (c : Char) (n : Nat) : Prop :=
  n < 16 ∧ (c = Nat.digitChar n ∨ c = (Nat.digitChar n).toUpper)

inductive UnitSpelled : List Char → Nat → Prop where
  | digits {a b c d : Char} {i j k l : Nat} (first : HexDigit a i) (second : HexDigit b j)
      (third : HexDigit c k) (fourth : HexDigit d l) :
      UnitSpelled ['\\', 'u', a, b, c, d] (((i * 16 + j) * 16 + k) * 16 + l)

/-- One character of a text: as it is, by a letter, by its UTF-16 unit, or by its two units. -/
inductive CharSpelled : List Char → Char → Prop where
  | plain {c : Char} (printed : 0x20 ≤ c.toNat) (noQuote : c ≠ '"') (noBackslash : c ≠ '\\') :
      CharSpelled [c] c
  | letter {l c : Char} (listed : (l, c) ∈ escapes) : CharSpelled ['\\', l] c
  | unit {cs : List Char} {c : Char} (spelled : UnitSpelled cs c.toNat) : CharSpelled cs c
  | pair {first second : List Char} {c : Char} {high low : Nat} (leads : UnitSpelled first high)
      (follows : UnitSpelled second low) (highRange : 0xD800 ≤ high ∧ high < 0xDC00)
      (lowRange : 0xDC00 ≤ low ∧ low < 0xE000)
      (joined : c.toNat = 0x10000 + (high - 0xD800) * 0x400 + (low - 0xDC00)) :
      CharSpelled (first ++ second) c

inductive TextSpelled : List Char → List Char → Prop where
  | done : TextSpelled ['"'] []
  | cons {front rest text : List Char} {c : Char} (first : CharSpelled front c)
      (later : TextSpelled rest text) : TextSpelled (front ++ rest) (c :: text)

def Digits (cs : List Char) : Prop := cs ≠ [] ∧ ∀ c ∈ cs, c.isDigit = true

def Whole (cs : List Char) : Prop := Digits cs ∧ (cs.head? = some '0' → cs = ['0'])

inductive SignSpelled : List Char → Bool → Prop where
  | absent : SignSpelled [] false
  | plus : SignSpelled ['+'] false
  | minus : SignSpelled ['-'] true

def withSign (negative : Bool) (n : Nat) : Int := if negative then -(n : Int) else n

inductive FractionSpelled : List Char → List Char → Prop where
  | absent : FractionSpelled [] []
  | point {digits : List Char} (nonempty : Digits digits) : FractionSpelled ('.' :: digits) digits

inductive PowerSpelled : List Char → Option Int → Prop where
  | absent : PowerSpelled [] none
  | letter {e : Char} {sign digits : List Char} {negative : Bool} (letter : e = 'e' ∨ e = 'E')
      (signed : SignSpelled sign negative) (nonempty : Digits digits) :
      PowerSpelled (e :: (sign ++ digits)) (some (withSign negative (digitsValue digits)))

/-- A number is an integer unless it has a point or a power. No plus stands in front of it. -/
inductive NumberSpelled : List Char → Json → Prop where
  | integer {sign whole : List Char} {negative : Bool} (signed : SignSpelled sign negative)
      (noPlus : sign ≠ ['+']) (digits : Whole whole) :
      NumberSpelled (sign ++ whole) (.integer (withSign negative (digitsValue whole)))
  | decimal {sign whole point fraction letter : List Char} {negative : Bool} {power : Option Int}
      (signed : SignSpelled sign negative) (noPlus : sign ≠ ['+']) (digits : Whole whole)
      (pointed : FractionSpelled point fraction) (powered : PowerSpelled letter power)
      (more : point ≠ [] ∨ letter ≠ []) :
      NumberSpelled (sign ++ (whole ++ (point ++ letter)))
        (.decimal (.ofParts negative whole fraction (power.getD 0)))

inductive NameSpelled : List Char → String → Prop where
  | mk {before name after : List Char} {s : String} (blank : Blanks before)
      (text : TextSpelled name s.toList) (blank' : Blanks after) :
      NameSpelled (before ++ '"' :: (name ++ (after ++ [':']))) s

/-- What a piece of text may spell: a value, a value with blanks around it, or the items or the fields up to
    the closing bracket. -/
inductive Part where
  | value (v : Json)
  | padded (v : Json)
  | items (vs : List Json)
  | fields (fs : List (String × Json))

inductive Spelled : List Char → Part → Prop where
  | null : Spelled ['n', 'u', 'l', 'l'] (.value .null)
  | true : Spelled ['t', 'r', 'u', 'e'] (.value (.bool true))
  | false : Spelled ['f', 'a', 'l', 's', 'e'] (.value (.bool false))
  | number {cs : List Char} {v : Json} (number : NumberSpelled cs v) : Spelled cs (.value v)
  | text {cs : List Char} {s : String} (text : TextSpelled cs s.toList) :
      Spelled ('"' :: cs) (.value (.text s))
  | noItems {between : List Char} (blank : Blanks between) :
      Spelled ('[' :: (between ++ [']'])) (.value (.array []))
  | array {cs : List Char} {vs : List Json} (items : Spelled cs (.items vs)) :
      Spelled ('[' :: cs) (.value (.array vs))
  | noFields {between : List Char} (blank : Blanks between) :
      Spelled ('\x7b' :: (between ++ ['\x7d'])) (.value (.object []))
  | object {cs : List Char} {fs : List (String × Json)} (fields : Spelled cs (.fields fs)) :
      Spelled ('\x7b' :: cs) (.value (.object fs))
  | padded {before cs after : List Char} {v : Json} (blank : Blanks before)
      (value : Spelled cs (.value v)) (blank' : Blanks after) :
      Spelled (before ++ (cs ++ after)) (.padded v)
  | lastItem {item : List Char} {v : Json} (value : Spelled item (.padded v)) :
      Spelled (item ++ [']']) (.items [v])
  | item {item more : List Char} {v : Json} {vs : List Json} (value : Spelled item (.padded v))
      (later : Spelled more (.items vs)) : Spelled (item ++ ',' :: more) (.items (v :: vs))
  | lastField {name item : List Char} {s : String} {v : Json} (named : NameSpelled name s)
      (value : Spelled item (.padded v)) : Spelled (name ++ (item ++ ['\x7d'])) (.fields [(s, v)])
  | field {name item more : List Char} {s : String} {v : Json} {fs : List (String × Json)}
      (named : NameSpelled name s) (value : Spelled item (.padded v))
      (later : Spelled more (.fields fs)) :
      Spelled (name ++ (item ++ ',' :: more)) (.fields ((s, v) :: fs))

end LineLint.Json
