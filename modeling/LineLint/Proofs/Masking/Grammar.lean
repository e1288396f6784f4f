import LineLint.Masker

/- Source trees: code with the comments and literals in it, how they are written, and how they are
   written with everything blanked that is no code and no delimiter. -/
namespace LineLint.Grammar

inductive Comment where
  | done
  | text (c : Char) (rest : Comment)
  | nested (inner rest : Comment)
  deriving DecidableEq, Repr

inductive Quotes where
  | one
  | three
  deriving DecidableEq, Repr

mutual

/-- Code is a list of items: plain characters, line comments, block comments and literals. -/
inductive Code where
  | done
  | plain (c : Char) (rest : Code)
  | lineComment (body : List Char) (rest : Code)
  | blockComment (body : Comment) (rest : Code)
  | literal (quotes : Quotes) (body : Body) (rest : Code)

/-- The body of a literal is a list of ordinary characters, escapes and interpolations. -/
inductive Body where
  | done
  | ordinary (c : Char) (rest : Body)
  | escape (c : Char) (rest : Body)
  | interpolation (code : Code) (rest : Body)

end

def Quotes.marks : Quotes → List Char
  | .one => ['"']
  | .three => ['"', '"', '"']

def Comment.render : Comment → List Char
  | .done => []
  | .text c rest => c :: rest.render
  | .nested inner rest => '/' :: '*' :: (inner.render ++ '*' :: '/' :: rest.render)

mutual

def Code.render : Code → List Char
  | .done => []
  | .plain c rest => c :: rest.render
  | .lineComment body rest => '/' :: '/' :: (body ++ rest.render)
  | .blockComment body rest => '/' :: '*' :: (body.render ++ '*' :: '/' :: rest.render)
  | .literal quotes body rest => quotes.marks ++ (body.render ++ (quotes.marks ++ rest.render))

def Body.render : Body → List Char
  | .done => []
  | .ordinary c rest => c :: rest.render
  | .escape c rest => '\\' :: c :: rest.render
  | .interpolation code rest => '\\' :: '(' :: (code.render ++ ')' :: rest.render)

end

def blank (c : Char) : Char := if c = '\n' then '\n' else ' '

mutual

/-- Code as the rules see it. Plain characters and the delimiters of comments and literals stay. -/
def Code.masked : Code → List Char
  | .done => []
  | .plain c rest => c :: rest.masked
  | .lineComment body rest => '/' :: '/' :: (body.map blank ++ rest.masked)
  | .blockComment body rest => '/' :: '*' :: (body.render.map blank ++ '*' :: '/' :: rest.masked)
  | .literal quotes body rest => quotes.marks ++ (body.masked ++ (quotes.marks ++ rest.masked))

/-- Of the body of a literal the code in interpolations stays. What opens and closes an
    interpolation belongs to the literal. -/
def Body.masked : Body → List Char
  | .done => []
  | .ordinary c rest => blank c :: rest.masked
  | .escape c rest => blank '\\' :: blank c :: rest.masked
  | .interpolation code rest =>
      blank '\\' :: blank '(' :: (code.masked ++ blank ')' :: rest.masked)

end

/-- The parentheses that are open after the plain characters of code, if so many are open before;
    nothing, if one is closed that none has opened. -/
def Code.openAfter (opened : Nat) : Code → Option Nat
  | .done => some opened
  | .plain c rest =>
      if c = '(' then rest.openAfter (opened + 1)
      else if c = ')' then
        match opened with
        | 0 => none
        | opened + 1 => rest.openAfter opened
      else rest.openAfter opened
  | .lineComment _ rest => rest.openAfter opened
  | .blockComment _ rest => rest.openAfter opened
  | .literal _ _ rest => rest.openAfter opened

def Code.Balanced (code : Code) : Prop := code.openAfter 0 = some 0

/-- No two characters of a comment's text, and no such character with a delimiter after it, look
    like a delimiter. The characters that follow the body are given. -/
def Comment.Clear (follow : List Char) : Comment → Prop
  | .done => True
  | .text c rest =>
      (c = '/' → (rest.render ++ follow).head? ≠ some '*') ∧
      (c = '*' → (rest.render ++ follow).head? ≠ some '/') ∧ rest.Clear follow
  | .nested inner rest => inner.Clear ('*' :: '/' :: (rest.render ++ follow)) ∧ rest.Clear follow

mutual

/-- Code that can be read in one way only, before the characters given. -/
def Code.WellFormed (follow : List Char) : Code → Prop
  | .done => True
  | .plain c rest =>
      c ≠ '"' ∧
      (c = '/' → (rest.render ++ follow).head? ≠ some '/' ∧
        (rest.render ++ follow).head? ≠ some '*') ∧ rest.WellFormed follow
  | .lineComment body rest =>
      '\n' ∉ body ∧ (∀ c ∈ (rest.render ++ follow).head?, c = '\n') ∧ rest.WellFormed follow
  | .blockComment body rest =>
      body.Clear ('*' :: '/' :: (rest.render ++ follow)) ∧ rest.WellFormed follow
  | .literal quotes body rest =>
      body.WellFormed quotes (rest.render ++ follow) ∧
      (quotes = .one → '\n' ∉ body.render ∧
        (body.render = [] → (rest.render ++ follow).head? ≠ some '"')) ∧ rest.WellFormed follow

/-- The body of a literal before the characters that follow its closing quotes. A string holds no
    quote, and a quote in a text block is not the first of three. -/
def Body.WellFormed (quotes : Quotes) (follow : List Char) : Body → Prop
  | .done => True
  | .ordinary c rest =>
      c ≠ '\\' ∧ (quotes = .one → c ≠ '"') ∧
      (c = '"' → ¬ ['"', '"'] <+: rest.render ++ (quotes.marks ++ follow)) ∧
      rest.WellFormed quotes follow
  | .escape c rest => c ≠ '(' ∧ c ≠ '\n' ∧ rest.WellFormed quotes follow
  | .interpolation code rest =>
      code.WellFormed (')' :: (rest.render ++ (quotes.marks ++ follow))) ∧ code.Balanced ∧
      rest.WellFormed quotes follow

end

end LineLint.Grammar
