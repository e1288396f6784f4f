import LineLint.Matcher.Named
import LineLint.Proofs.Matching.Leftmost
import LineLint.Proofs.Matching.Words

/- The patterns that look for something anywhere in a line, each with the expression that it is made
   from, and that it finds what the expression does. -/
namespace LineLint
open LineLint.Text

def Pattern.Follows (p : Pattern) (e : Expression) : Prop :=
  ∀ cs, p.find cs = (e.search cs).map e.found

namespace Expression

def foundAt (e : Expression) (front rest : List Char) : Option Found :=
  (e.run finish ⟨front, rest, []⟩).map fun captures => e.found ⟨front.length, captures⟩

section
variable {α : Type} {e : Expression} {accepts : Option Char → List Char → Option α}
  {toFound : Nat × α → Found}

theorem search_from_leftmost
    (same : ∀ front rest, e.foundAt front rest =
      (accepts front.head? rest).map fun a => toFound (front.length, a)) (front rest : List Char) :
    (e.searchFrom front rest).map e.found =
      (leftmost accepts front.head? rest).map fun first =>
        toFound (front.length + first.1, first.2) := by
  induction rest generalizing front with
  | nil =>
    have here := same front []
    rw [foundAt] at here
    rw [searchFrom, leftmost, Option.map_map, Option.map_map]
    exact here
  | cons c rest ih =>
    have here := same front (c :: rest)
    rw [foundAt] at here
    rw [searchFrom, leftmost, Option.map_or, Option.map_map, ih]
    have now : Option.map (e.found ∘ Match.mk front.length)
        (e.run finish ⟨front, c :: rest, []⟩) = _ := here
    rw [now]
    cases accepts front.head? (c :: rest) with
    | some a => rfl
    | none =>
      simp only [Option.map_none, Option.none_or, Option.map_map, List.head?_cons,
        List.length_cons]
      congr 1
      funext first
      obtain ⟨n, a⟩ := first
      simp only [Function.comp, Nat.add_assoc, Nat.add_comm 1 n]

theorem follows_leftmost {p : Pattern}
    (search : ∀ cs, p.find cs = (leftmost accepts none cs).map toFound)
    (same : ∀ front rest, e.foundAt front rest =
      (accepts front.head? rest).map fun a => toFound (front.length, a)) : p.Follows e := by
  intro cs
  rw [search, Expression.search, search_from_leftmost same]
  simp only [List.length_nil, Nat.zero_add]
  rfl

theorem found_at_steps {step : Cursor → Option Cursor} {bars : List Char → Prop}
    (steps : e.Steps step bars) (front rest : List Char) :
    e.foundAt front rest =
      (step ⟨front, rest, []⟩).map fun t => e.found ⟨front.length, t.captures⟩ := by
  rw [foundAt, run_steps steps, Option.map_map]
  rfl

theorem found_at_nameless {step : Cursor → Option Cursor} {bars : List Char → Prop}
    (steps : e.Steps step bars) (nameless : e.names = []) (front rest : List Char) :
    e.foundAt front rest =
      (step ⟨front, rest, []⟩).map fun _ => ⟨front.length, .start, []⟩ := by
  rw [found_at_steps steps]
  congr 1
  funext t
  simp [found, nameless]

end

end Expression

namespace Pattern
open Expression

theorem character_follows (subject : Subject) (sought : Char) :
    (character subject sought).Follows (char sought) := by
  refine follows_leftmost (fun _ => rfl) fun front rest => ?_
  refine (found_at_nameless (one_drops (· == sought)).steps rfl front rest).trans ?_
  cases rest with
  | nil => rfl
  | cons c rest =>
    by_cases same : c = sought
    · simp [Cursor.dropping, dropOne, same]
    · simp [Cursor.dropping, dropOne, same]

/-- The expression `\btry!`, for any word that begins with a word character. -/
def wordExpression (sought : String) : Expression := chain [boundary, Expression.word sought.toList]

theorem word_follows {sought : String} {c : Char} {more : List Char}
    (begins : sought.toList = c :: more) (word : isWord c = true) :
    (Pattern.word sought).Follows (wordExpression sought) := by
  refine follows_leftmost (fun _ => rfl) fun front rest => ?_
  have steps := boundary_steps (word_drops sought.toList) fun dropped => by
    rw [drop_word_eq_some.mp dropped, begins]
    exact word
  refine (found_at_nameless steps (word_names sought.toList) front rest).trans ?_
  dsimp only [dropWordAt]
  split
  · rfl
  · rw [Cursor.dropping, Option.map_map]
    rfl

def inAnyCase (cs : List Char) : Expression :=
  cs.foldr (fun c e => seq (one fun d => d.toUpper == c) e) empty

theorem in_any_case_names (cs : List Char) : (inAnyCase cs).names = [] := by
  induction cs with
  | nil => rfl
  | cons c cs ih => exact ih

theorem in_any_case_drops (cs : List Char) :
    (inAnyCase cs).Drops
      (fun ds => (dropWord cs (ds.map Char.toUpper)).map fun _ => ds.drop cs.length) Free := by
  induction cs with
  | nil => exact drops_congr empty_drops fun ds => by cases ds <;> rfl
  | cons c cs ih =>
    have drops := seq_drops (one_drops fun d => d.toUpper == c) ih fun _ barred => barred.elim
    refine drops_congr drops fun ds => ?_
    cases ds with
    | nil => rfl
    | cons d ds =>
      by_cases same : c = d.toUpper
      · simp [dropOne, dropWord, same]
      · simp [dropOne, dropWord, same, Ne.symm same]

theorem leftmost_map {α : Type} (accepts : List Char → Option α) (change : Char → Char)
    (before before' : Option Char) (cs : List Char) :
    leftmost (fun _ rest => accepts rest) before (cs.map change) =
      leftmost (fun _ rest => accepts (rest.map change)) before' cs := by
  induction cs generalizing before before' with
  | nil => rfl
  | cons c cs ih =>
    rw [List.map_cons, leftmost, leftmost, List.map_cons, ih (some (change c)) (some c)]

theorem todo_follows : todo.Follows (inAnyCase ['T', 'O', 'D', 'O']) := by
  have search : ∀ cs, todo.find cs =
      (leftmost (fun _ rest => dropWord ['T', 'O', 'D', 'O'] (rest.map Char.toUpper)) none cs).map
        fun first => ⟨first.1, .start, []⟩ := by
    intro cs
    rw [← leftmost_map _ _ none none]
    rfl
  refine follows_leftmost search fun front rest => ?_
  have drops := in_any_case_drops ['T', 'O', 'D', 'O']
  refine (found_at_nameless drops.steps (in_any_case_names _) front rest).trans ?_
  rw [Cursor.dropping, Option.map_map, Option.map_map]
  rfl

theorem optional_char_steps (name : String) (c : Char) :
    (optional (group name (char c))).Steps
      (fun s => ((s.dropping (dropOne (· == c))).map (Cursor.capture name s)).or (some s))
      (Begins (· == c)) := by
  have inner := group_steps name (one_drops (· == c)).steps
  refine optional_steps inner (fun _ barred => barred.elim) fun s taken => ?_
  rw [Option.isSome_map, Cursor.dropping, Option.isSome_map] at taken
  exact drop_one_begins taken

/-- The expression `x(?P<at>y)?`. -/
def optionalPartExpression : Expression :=
  chain [char 'x', optional (group "at" (char 'y'))]

theorem part_after_x_eq (rest : List Char) :
    partAfterX rest = (dropOne (· == 'x') rest).map fun after => (dropOne (· == 'y') after).isSome := by
  unfold partAfterX
  split
  · rfl
  · rename_i after other
    rw [drop_char_iff.mpr rfl, Option.map_some, drop_char_none other]
    rfl
  · rename_i other
    rw [drop_char_none other]
    rfl

theorem optional_part_follows : optionalPart.Follows optionalPartExpression := by
  refine follows_leftmost (fun _ => rfl) fun front rest => ?_
  have steps := seq_steps (one_drops (· == 'x')).steps (optional_char_steps "at" 'y') fun _ barred => barred.elim
  refine (found_at_steps steps front rest).trans ?_
  dsimp only
  rw [part_after_x_eq]
  cases first : dropOne (· == 'x') rest with
  | none => rw [dropping_none first, Option.bind_none, Option.map_none, Option.map_none, Option.map_none]
  | some after =>
    obtain ⟨c, _, rfl⟩ := drop_one_iff.mp first
    rw [dropping_some first, to_tail]
    cases second : dropOne (· == 'y') after with
    | none =>
      rw [Option.bind_some, dropping_none second, Option.map_some, Option.map_some, second]
      rfl
    | some further =>
      rw [Option.bind_some, dropping_some second, Option.map_some, Option.map_some, second]
      rfl

/-- The expression `(?P<k>c)(?P<name>a)?b`. -/
def optionalNameExpression : Expression :=
  chain [group "k" (char 'c'), optional (group "name" (char 'a')), char 'b']

theorem optional_params_eq (rest : List Char) :
    optionalParams rest = (dropOne (· == 'c') rest).bind fun after =>
      (((dropOne (· == 'a') after).map fun further => (further, [("k", "c"), ("name", "a")])).or
        (some (after, [("k", "c")]))).bind fun (further, params) =>
          (dropOne (· == 'b') further).map fun _ => params := by
  unfold optionalParams
  split
  · rfl
  · rfl
  · rename_i noName noB
    match rest with
    | [] => rfl
    | c :: after =>
      by_cases isC : c = 'c'
      · subst isC
        match after with
        | [] => rfl
        | d :: further =>
          by_cases isA : d = 'a'
          · subst isA
            match further with
            | [] => rfl
            | f :: last =>
              have other : f ≠ 'b' := fun same => noName last (same ▸ rfl)
              simp [dropOne, other]
          · have other : d ≠ 'b' := fun same => noB further (same ▸ rfl)
            simp [dropOne, isA, other]
      · simp [dropOne, isC]

theorem optional_name_follows : optionalName.Follows optionalNameExpression := by
  refine follows_leftmost (fun _ => rfl) fun front rest => ?_
  have tail := seq_steps (optional_char_steps "name" 'a') (one_drops (· == 'b')).steps fun t barred => by
    have stops : Stops (· == 'b') t.rest := begins_class_stops rfl barred
    exact dropping_none (drop_one_none stops)
  have steps := seq_steps (group_steps "k" (one_drops (· == 'c')).steps) tail
    fun _ barred => barred.elim
  refine (found_at_steps steps front rest).trans ?_
  rw [optional_params_eq]
  dsimp only
  cases first : dropOne (· == 'c') rest with
  | none =>
    rw [dropping_none first]
    rfl
  | some after =>
    obtain ⟨c, isC, rfl⟩ := drop_one_iff.mp first
    rw [dropping_some first, to_tail, Option.map_some, captured_one]
    dsimp only [Option.bind_some]
    cases second : dropOne (· == 'a') after with
    | none =>
      rw [dropping_none second]
      dsimp only [Option.map_none, Option.none_or, Option.bind_some]
      cases third : dropOne (· == 'b') after with
      | none =>
        rw [dropping_none third]
        rfl
      | some last =>
        rw [dropping_some third, beq_iff_eq.mp isC]
        rfl
    | some further =>
      obtain ⟨d, isA, rfl⟩ := drop_one_iff.mp second
      rw [dropping_some second, to_tail, Option.map_some, captured_one]
      dsimp only [Option.map_some, Option.some_or, Option.bind_some]
      cases third : dropOne (· == 'b') further with
      | none =>
        rw [dropping_none third]
        rfl
      | some last =>
        rw [dropping_some third, beq_iff_eq.mp isC, beq_iff_eq.mp isA]
        rfl

/-- The expression `(?P<key>\w+)=(?P<value>\w*)`. -/
def pairExpression : Expression :=
  chain [group "key" (someOf isWord), char '=', group "value" (manyOf isWord)]

theorem key_and_value_eq (cs : List Char) :
    keyAndValue cs = (takeSome isWord cs).bind fun (key, rest) =>
      (dropOne (· == '=') rest).map fun after => (key, after.takeWhile isWord) := by
  simp only [keyAndValue, Option.bind_eq_bind, Option.pure_def]
  congr 1
  funext ⟨key, rest⟩
  dsimp only
  split
  · rfl
  · rename_i other
    rw [drop_char_none other]
    rfl

theorem pair_follows : pair.Follows pairExpression := by
  refine follows_leftmost (fun _ => rfl) fun front rest => ?_
  have tail := seq_steps (one_drops (· == '=')).steps (group_steps "value" (many_of_drops isWord).steps)
    fun _ barred => barred.elim
  have steps := seq_steps (group_steps "key" (some_of_drops isWord).steps) tail fun t barred => by
    have stops : Stops (· == '=') t.rest := begins_class_stops rfl barred
    rw [dropping_none (drop_one_none stops), Option.bind_none]
  refine (found_at_steps steps front rest).trans ?_
  dsimp only
  rw [named_some, key_and_value_eq]
  cases first : takeSome isWord rest with
  | none => rfl
  | some run =>
    obtain ⟨key, after⟩ := run
    dsimp only [Option.map_some, Option.bind_some]
    cases second : dropOne (· == '=') after with
    | none =>
      rw [dropping_none second]
      rfl
    | some further =>
      rw [dropping_some second, Option.bind_some, named_many]
      rfl

/-- The expression `let\s+(?P<at>(?P<name>\w+))`. -/
def boundExpression : Expression :=
  chain [Expression.word ['l', 'e', 't'], someOf isBlank,
    group "at" (group "name" (someOf isWord))]

def dropLet (cs : List Char) : Option (List Char) :=
  (dropWord ['l', 'e', 't'] cs).bind fun rest => (takeSome isBlank rest).map Prod.snd

theorem bound_name_eq (cs : List Char) :
    boundName cs = (dropLet cs).bind fun rest =>
      (takeSome isWord rest).map fun (name, _) => (offset cs rest, name) := by
  simp only [boundName, dropLet, Option.bind_eq_bind, Option.pure_def]
  cases dropWord ['l', 'e', 't'] cs with
  | none => rfl
  | some rest =>
    simp only [Option.bind_some]
    cases takeSome isBlank rest with
    | none => rfl
    | some run =>
      simp only [Option.bind_some, Option.map_some]
      cases takeSome isWord run.2 with
      | none => rfl
      | some run' => rfl

theorem bound_follows : bound.Follows boundExpression := by
  refine follows_leftmost (fun _ => rfl) fun front rest => ?_
  have lead : (seq (Expression.word ['l', 'e', 't']) (someOf isBlank)).Drops dropLet (Begins isBlank) :=
    seq_drops (word_drops ['l', 'e', 't']) (some_of_drops isBlank) fun _ barred => barred.elim
  have steps := seq_steps lead.steps
    (group_steps "at" (group_steps "name" (some_of_drops isWord).steps)) fun t barred => by
      have stops : Stops isWord t.rest := begins_stops (fun _ => blank_not_word) barred
      rw [named_some, take_some_none stops]
      rfl
  refine (found_at_steps steps front rest).trans ?_
  rw [bound_name_eq]
  dsimp only
  cases led : dropLet rest with
  | none =>
    rw [dropping_none led]
    rfl
  | some named =>
    have place := to_front_length (s := ⟨front, rest, []⟩) (lead.suffix led)
    have rests : (Cursor.to ⟨front, rest, []⟩ named).rest = named := rfl
    rw [dropping_some led, Option.bind_some, Option.bind_some, named_some, rests]
    cases takeSome isWord named with
    | none => rfl
    | some run =>
      obtain ⟨name, after⟩ := run
      show some (Found.mk front.length (.part (some (Cursor.to ⟨front, rest, []⟩ named).front.length))
        [("name", String.ofList name)]) = _
      rw [place]
      rfl

end Pattern

end LineLint
