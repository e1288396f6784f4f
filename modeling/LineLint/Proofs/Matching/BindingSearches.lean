import LineLint.Proofs.Matching.Declarations
import LineLint.Proofs.Matching.Searches

/- The patterns about bindings, and the expressions that they are made from. -/
namespace LineLint
open LineLint.Text

namespace Expression

def binders : List String := ["let", "var"]

def binder : Expression := chain [boundary, anyOf binders, someOf isBlank]

theorem binders_prefix_free : PrefixFree binders := by decide

def dropBound (cs : List Char) : Option (List Char) :=
  (dropAny binders cs).bind fun rest => (takeSome isBlank rest).map Prod.snd

theorem drop_binder_eq (before : Option Char) (cs : List Char) :
    Pattern.dropBinder before cs = if before.any isWord then none else dropBound cs := by
  have words : dropAny binders cs = (dropWord ['l', 'e', 't'] cs).or (dropWord ['v', 'a', 'r'] cs) := by
    have isLet : "let".toList = ['l', 'e', 't'] := by decide
    have isVar : "var".toList = ['v', 'a', 'r'] := by decide
    rw [dropAny, binders, List.findSome?_cons, List.findSome?_cons, isLet, isVar]
    cases dropWord ['l', 'e', 't'] cs with
    | none =>
      cases dropWord ['v', 'a', 'r'] cs with
      | none => rfl
      | some rest => rfl
    | some rest => rfl
  rw [dropBound, words, Pattern.dropBinder, dropWordAt, dropWordAt]
  cases before.any isWord with
  | true => rfl
  | false =>
    simp only [Bool.false_eq_true, if_false, Option.bind_eq_bind]
    congr 1
    funext rest
    cases takeSome isBlank rest with
    | none => rfl
    | some run => rfl

theorem bound_drops :
    (seq (anyOf binders) (someOf isBlank)).Drops dropBound (Begins isBlank) :=
  seq_drops (any_of_drops binders_prefix_free) (some_of_drops isBlank) fun _ barred => barred.elim

theorem bound_begins {cs rest : List Char} (dropped : dropBound cs = some rest) :
    Begins isWord cs := by
  obtain ⟨after, found, _⟩ := Option.bind_eq_some_iff.mp dropped
  obtain ⟨w, member, rfl⟩ := drop_any_exists found
  simp only [binders, List.mem_cons, List.not_mem_nil, or_false] at member
  rcases member with rfl | rfl
  · rfl
  · rfl

theorem binder_steps :
    binder.Steps (fun s => (Pattern.dropBinder s.front.head? s.rest).map s.to) (Begins isBlank) := by
  have steps := boundary_steps bound_drops bound_begins
  intro onward s settles
  refine (steps onward s settles).trans ?_
  dsimp only
  rw [drop_binder_eq]
  split
  · rfl
  · rfl

end Expression

namespace Pattern
open Expression

/-- The expression `\b(?:let|var)\s+(?P<at>(?P<name>k[A-Z]\w*))`. -/
def hungarianExpression : Expression :=
  chain [binder, group "at" (group "name" (chain [char 'k', one isAsciiUpper, manyOf isWord]))]

def dropHungarian (cs : List Char) : Option (List Char) :=
  if isHungarian (cs.takeWhile isWord) then some (cs.dropWhile isWord) else none

theorem ascii_letters_word :
    ∀ n < 26, letterOrNumberRanges.holds ('A'.toNat + n) = true ∧
      letterOrNumberRanges.holds ('a'.toNat + n) = true := by
  decide +kernel

theorem letter_word {a c : Char}
    (letters : ∀ n < 26, letterOrNumberRanges.holds (a.toNat + n) = true)
    (first : a.toNat ≤ c.toNat) (last : c.toNat ≤ a.toNat + 25) : isWord c = true := by
  have code : c.toNat = a.toNat + (c.toNat - a.toNat) := by omega
  rw [isWord, code, letters _ (by omega), Bool.or_true]

theorem upper_word {c : Char} (upper : isAsciiUpper c = true) : isWord c = true := by
  simp only [isAsciiUpper, Bool.and_eq_true, decide_eq_true_eq] at upper
  exact letter_word (fun n less => (ascii_letters_word n less).1) upper.1 upper.2

theorem lower_word {c : Char} (lower : isAsciiLower c = true) : isWord c = true := by
  simp only [isAsciiLower, Bool.and_eq_true, decide_eq_true_eq] at lower
  exact letter_word (fun n less => (ascii_letters_word n less).2) lower.1 lower.2

theorem drop_hungarian_iff {cs rest : List Char} :
    dropHungarian cs = some rest ↔
      ∃ capital more, cs = 'k' :: capital :: more ∧ isAsciiUpper capital = true ∧
        more.dropWhile isWord = rest := by
  have kWord : isWord 'k' = true := by decide +kernel
  rw [dropHungarian, Option.ite_none_right_eq_some, Option.some.injEq, hungarian_iff]
  constructor
  · rintro ⟨⟨capital, more, named, upper⟩, rfl⟩
    have whole := List.takeWhile_append_dropWhile (p := isWord) (l := cs)
    have letters : ∀ c ∈ cs.takeWhile isWord, isWord c = true :=
      List.all_eq_true.mp List.all_takeWhile
    rw [named] at whole letters
    refine ⟨capital, more ++ cs.dropWhile isWord, whole.symm, upper, ?_⟩
    refine drop_while_append (fun c member => letters c ?_) (drop_while_stops isWord cs)
    exact List.mem_cons_of_mem _ (List.mem_cons_of_mem _ member)
  · rintro ⟨capital, more, rfl, upper, rfl⟩
    have word := upper_word upper
    refine ⟨⟨capital, more.takeWhile isWord, ?_, upper⟩, ?_⟩
    · simp [kWord, word]
    · simp [kWord, word]

theorem hungarian_drops :
    (chain [char 'k', one isAsciiUpper, manyOf isWord]).Drops dropHungarian (Begins isWord) := by
  have drops := seq_drops (one_drops (· == 'k'))
    (seq_drops (one_drops isAsciiUpper) (many_of_drops isWord) fun _ barred => barred.elim)
    fun _ barred => barred.elim
  refine drops_congr drops fun cs => ?_
  apply Option.ext
  intro rest
  simp only [drop_hungarian_iff, Option.bind_eq_some_iff, drop_one_iff, beq_iff_eq,
    Option.some.injEq]
  constructor
  · rintro ⟨_, ⟨_, rfl, rfl⟩, more, ⟨capital, upper, rfl⟩, rfl⟩
    exact ⟨capital, more, rfl, upper, rfl⟩
  · rintro ⟨capital, more, rfl, upper, rfl⟩
    exact ⟨_, ⟨_, rfl, rfl⟩, more, ⟨capital, upper, rfl⟩, rfl⟩

theorem named_hungarian {s : Cursor} (name : String) :
    (s.dropping dropHungarian).map (Cursor.capture name s) =
      if isHungarian (s.rest.takeWhile isWord) then
        some ⟨(s.rest.takeWhile isWord).reverse ++ s.front, s.rest.dropWhile isWord,
          ⟨name, s.front.length, s.rest.takeWhile isWord⟩ :: s.captures⟩
      else none := by
  rw [← named_many, Cursor.dropping, Cursor.dropping, dropHungarian]
  split
  · rfl
  · rfl

theorem hungarian_follows : hungarian.Follows hungarianExpression := by
  refine follows_leftmost (fun _ => rfl) fun front rest => ?_
  have steps := seq_steps binder_steps (group_steps "at" (group_steps "name" hungarian_drops.steps))
    fun t barred => by
      have stops : Stops isWord t.rest := begins_stops (fun _ => blank_not_word) barred
      rw [named_hungarian, take_while_stopped stops]
      rfl
  refine (found_at_steps steps front rest).trans ?_
  simp only [hungarianName, Option.bind_eq_bind]
  cases led : dropBinder front.head? rest with
  | none => rfl
  | some named =>
    have place := to_front_length (s := ⟨front, rest, []⟩) (drop_binder_suffix led)
    have rests : (Cursor.to ⟨front, rest, []⟩ named).rest = named := rfl
    rw [Option.map_some, Option.bind_some, Option.bind_some, named_hungarian, rests]
    split
    · show some (Found.mk front.length (.part (some (Cursor.to ⟨front, rest, []⟩ named).front.length))
        [("name", String.ofList (named.takeWhile isWord))]) = _
      rw [place]
      rfl
    · rfl

def colonAfterBlank (front : List Char) : Bool :=
  match front with
  | ':' :: c :: _ => isBlank c
  | _ => false

/-- The expression `\b(?:let|var)\s+(?P<name>\w+)\s*(?P<at>:)(?:(?<=\s:)|(?=\S))`. -/
def colonExpression : Expression :=
  chain [binder, group "name" (someOf isWord), manyOf isBlank, group "at" (char ':'),
    either (place fun front _ => colonAfterBlank front)
      (place fun _ rest => rest.head?.any fun c => !isBlank c)]

theorem colon_after_name_eq (before : Option Char) (cs : List Char) :
    colonAfterName before cs = (dropBinder before cs).bind fun named =>
      (takeSome isWord named).bind fun run =>
        (dropOne (· == ':') (run.2.dropWhile isBlank)).bind fun after =>
          if isTightOrLate (run.2.takeWhile isBlank) after then
            some (offset cs (run.2.dropWhile isBlank), run.1)
          else none := by
  simp only [colonAfterName, Option.bind_eq_bind, span]
  congr 1
  funext named
  congr 1
  funext run
  obtain ⟨name, rest⟩ := run
  dsimp only
  split
  · rename_i blanks after eq
    obtain ⟨rfl, colon⟩ := Prod.mk.inj eq
    rw [colon]
    rfl
  · rename_i other
    rw [drop_char_none fun after eq => other (rest.takeWhile isBlank) after (by rw [eq])]
    rfl

theorem either_places_steps (holds holds' : List Char → List Char → Bool) :
    (either (place holds) (place holds')).Steps
      (fun s => if holds s.front s.rest || holds' s.front s.rest then some s else none) Free := by
  intro onward s _
  simp only [Expression.run]
  cases holds s.front s.rest with
  | true => cases holds' s.front s.rest <;> simp
  | false => cases holds' s.front s.rest <;> simp

theorem colon_tests {lead name blanks after : List Char} (some : name ≠ [])
    (word : ∀ c ∈ name, isWord c = true) (allBlank : Blank blanks) :
    (colonAfterBlank (':' :: (blanks.reverse ++ (name.reverse ++ lead))) ||
      after.head?.any fun c => !isBlank c) = isTightOrLate blanks after := by
  have behind (front : List Char) : colonAfterBlank (':' :: front) = front.head?.any isBlank := by
    cases front with
    | nil => rfl
    | cons c front => rfl
  have turned : blanks.reverse ++ (name.reverse ++ lead) =
      (lead.reverse ++ (name ++ blanks)).reverse := by
    simp only [List.reverse_append, List.reverse_reverse, List.append_assoc]
  rw [behind, turned, List.head?_reverse, Bool.eq_iff_iff, Bool.or_eq_true,
    tight_or_late_iff some word allBlank]

theorem colon_start {front rest named name after tail : List Char} (suffix : named <:+ rest)
    (whole : named = name ++ after) (colon : after.dropWhile isBlank = ':' :: tail) :
    ((after.takeWhile isBlank).reverse ++
      (name.reverse ++ (Cursor.to ⟨front, rest, []⟩ named).front)).length =
      front.length + offset rest (':' :: tail) := by
  have both : named = (name ++ after.takeWhile isBlank) ++ ':' :: tail := by
    rw [whole, List.append_assoc, ← colon, List.takeWhile_append_dropWhile]
  have inner : ':' :: tail <:+ named := ⟨_, both.symm⟩
  have place := to_front_length (s := ⟨front, rest, []⟩) (inner.trans suffix)
  rw [← to_to suffix inner, to_append both] at place
  rwa [List.reverse_append, List.append_assoc] at place

def colonStep (s : Cursor) : Option Cursor :=
  (takeSome isWord s.rest).bind fun (name, after) =>
    (dropOne (· == ':') (after.dropWhile isBlank)).bind fun tail =>
      let front := (after.takeWhile isBlank).reverse ++ (name.reverse ++ s.front)
      if isTightOrLate (after.takeWhile isBlank) tail then
        some ⟨':' :: front, tail,
          ⟨"at", front.length, [':']⟩ :: ⟨"name", s.front.length, name⟩ :: s.captures⟩
      else none

theorem colon_taken_step (s : Cursor) :
    (((s.dropping fun cs => (takeSome isWord cs).map Prod.snd).map (Cursor.capture "name" s)).bind
      fun t => (t.dropping fun cs => some (cs.dropWhile isBlank)).bind fun u =>
        ((u.dropping (dropOne (· == ':'))).map (Cursor.capture "at" u)).bind fun v =>
          if colonAfterBlank v.front || v.rest.head?.any (fun c => !isBlank c) then some v
          else none) = colonStep s := by
  rw [named_some, colonStep]
  cases taken : takeSome isWord s.rest with
  | none => rfl
  | some run =>
    obtain ⟨name, after⟩ := run
    obtain ⟨_, word⟩ := take_some_iff.mp taken
    have allBlank : Blank (after.takeWhile isBlank) := List.all_eq_true.mp List.all_takeWhile
    dsimp only [Option.map_some, Option.bind_some]
    rw [dropping_many, Option.bind_some]
    dsimp only
    cases second : dropOne (· == ':') (after.dropWhile isBlank) with
    | none =>
      rw [dropping_none second]
      rfl
    | some tail =>
      rw [dropping_some second, drop_char_iff.mp second, to_tail, Option.map_some, captured_one,
        Option.bind_some]
      dsimp only [Option.bind_some]
      rw [colon_tests word.some word.all allBlank]

theorem colon_steps :
    (chain [group "name" (someOf isWord), manyOf isBlank, group "at" (char ':'),
      either (place fun front _ => colonAfterBlank front)
        (place fun _ rest => rest.head?.any fun c => !isBlank c)]).Steps colonStep Free := by
  have colon := seq_steps (group_steps "at" (one_drops (· == ':')).steps)
    (either_places_steps (fun front _ => colonAfterBlank front)
      fun _ rest => rest.head?.any fun c => !isBlank c) fun _ barred => barred.elim
  have spaced := seq_steps (many_of_drops isBlank).steps colon fun t barred => by
    have stops : Stops (· == ':') t.rest := begins_class_stops rfl barred
    rw [dropping_none (drop_one_none stops)]
    rfl
  have steps := seq_steps (group_steps "name" (some_of_drops isWord).steps) spaced
    fun t barred => by
      have stops : Stops (· == ':') t.rest := begins_class_stops rfl barred
      have noBlank : Stops isBlank t.rest := begins_stops (fun _ => word_not_blank) barred
      rw [dropping_many_stopped noBlank, Option.bind_some, dropping_none (drop_one_none stops)]
      rfl
  rwa [funext colon_taken_step] at steps

theorem misplaced_colon_follows : misplacedColon.Follows colonExpression := by
  refine follows_leftmost (fun _ => rfl) fun front rest => ?_
  have steps := seq_steps binder_steps colon_steps fun t barred => by
    have stops : Stops isWord t.rest := begins_stops (fun _ => blank_not_word) barred
    rw [colonStep, take_some_none stops, Option.bind_none]
  refine (found_at_steps steps front rest).trans ?_
  rw [colon_after_name_eq]
  dsimp only
  cases led : dropBinder front.head? rest with
  | none => rfl
  | some named =>
    have rests : (Cursor.to ⟨front, rest, []⟩ named).rest = named := rfl
    rw [Option.map_some, Option.bind_some, Option.bind_some, colonStep, rests]
    cases taken : takeSome isWord named with
    | none => rfl
    | some run =>
      obtain ⟨name, after⟩ := run
      obtain ⟨whole, _⟩ := take_some_iff.mp taken
      dsimp only [Option.bind_some]
      cases second : dropOne (· == ':') (after.dropWhile isBlank) with
      | none => rfl
      | some tail =>
        have colon := drop_char_iff.mp second
        dsimp only [Option.bind_some]
        split
        · rw [colon_start (drop_binder_suffix led) whole colon, colon]
          rfl
        · rfl

end Pattern

end LineLint
