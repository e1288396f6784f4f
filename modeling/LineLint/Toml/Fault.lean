/- Why a TOML document cannot be read. -/
namespace LineLint.Toml

inductive Bracket where
  | square
  | curly
  deriving DecidableEq, Repr

/-- Whether there is room to read on inside brackets, given those that are open, the innermost first,
    and what follows. How much room there is depends on the machine. -/
abbrev Room := List Bracket → List Char → Bool

/-- Besides the form, the length of decimal integers and the depth of nesting have limits. -/
inductive Fault where
  | malformed
  | longInteger (digits : Nat)
  | tooDeep
  deriving DecidableEq, Repr

def checkRoom (room : Room) (brackets : List Bracket) (cs : List Char) : Except Fault Unit :=
  if brackets.isEmpty || room brackets cs then .ok () else .error .tooDeep

def required {α : Type} : Option α → Except Fault α
  | some a => .ok a
  | none => .error .malformed

end LineLint.Toml
