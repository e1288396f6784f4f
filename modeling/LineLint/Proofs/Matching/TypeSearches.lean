import LineLint.Proofs.Matching.BindingSearches
import LineLint.Proofs.Matching.LineSearches
import LineLint.Proofs.Matching.TypeNames

/- The pattern about type names, and the expression that it is made from. Attributes, modifiers and the
   keyword are each matched in one way at most, so that nothing is tried twice. -/
namespace LineLint
open LineLint.Text

namespace Pattern

theorem peels_shorten {Piece : Type} {drop : List Char → Option (List Char)}
    {text : Piece → List Char} (peels : Peels drop text) : Expression.Shortens drop := by
  intro cs rest dropped
  obtain ⟨p, rfl⟩ := peels.piece cs rest dropped
  have := List.length_pos_iff.mpr (peels.nonempty p)
  rw [List.length_append]
  omega

open Expression

def argumentsExpression : Expression := chain [char '(', manyOf (· != ')'), char ')']

/-- The expression `@\w+(?:\([^)]*\))?\s+`. -/
def attributeExpression : Expression :=
  chain [char '@', someOf isWord, optional argumentsExpression, someOf isBlank]

def modifierExpression : Expression := chain [anyOf modifierWords, someOf isBlank]

def noMember : Expression := refused (chain [anyOf excludedWords, boundary])

/-- The expression `(?P<keyword>class|struct|...)\s+`, no word for a member, and
    `(?P<at>(?P<name>[a-z]\w*))`. -/
def declarationExpression : Expression :=
  chain [group "keyword" (anyOf typeWords), someOf isBlank, noMember,
    group "at" (group "name" (chain [one isAsciiLower, manyOf isWord]))]

/-- The expression `^\s*`, attributes and modifiers as above, as many as there are, and the rest of the
    declaration. -/
def smallTypeExpression : Expression :=
  chain [lineStart, manyOf isBlank, many attributeExpression, many modifierExpression,
    declarationExpression]

def dropClosed (cs : List Char) : Option (List Char) :=
  (dropOne (· == '(') cs).bind fun inside => dropOne (· == ')') (inside.dropWhile (· != ')'))

theorem arguments_drops : argumentsExpression.Drops dropClosed Free :=
  seq_drops (one_drops (· == '('))
    (seq_drops (many_of_drops (· != ')')) (one_drops (· == ')')) fun rest barred =>
      drop_one_none (begins_stops (fun c other => by
        rwa [bne, Bool.not_eq_true'] at other) barred))
    fun _ barred => barred.elim

theorem drop_arguments_eq (cs : List Char) :
    dropArguments cs = (dropClosed cs).getD cs := by
  unfold dropArguments
  split
  · rename_i inside
    rw [dropClosed, drop_char_iff.mpr rfl, Option.bind_some]
    split
    · rename_i after closing
      rw [drop_char_iff.mpr closing, Option.getD_some]
    · rename_i other
      rw [drop_char_none other, Option.getD_none]
  · rename_i other
    rw [dropClosed, drop_char_none other]
    rfl

theorem closed_begins {cs : List Char} (dropped : (dropClosed cs).isSome = true) :
    Begins (· == '(') cs := by
  obtain ⟨rest, eq⟩ := Option.isSome_iff_exists.mp dropped
  obtain ⟨inside, first, _⟩ := Option.bind_eq_some_iff.mp eq
  rw [drop_char_iff.mp first]
  rfl

theorem drop_attribute_eq (cs : List Char) :
    dropAttribute cs = (dropOne (· == '@') cs).bind fun rest =>
      (takeSome isWord rest).bind fun (_, rest) =>
        (takeSome isBlank (dropArguments rest)).map Prod.snd := by
  unfold dropAttribute
  split
  · rename_i rest
    rw [drop_char_iff.mpr rfl]
    simp only [Option.bind_eq_bind, Option.pure_def, Option.bind_some, Option.map_eq_bind]
    rfl
  · rename_i other
    rw [drop_char_none other]
    rfl

theorem attribute_drops : attributeExpression.Drops dropAttribute (Begins isBlank) := by
  have spaced := seq_drops (optional_drops arguments_drops) (some_of_drops isBlank)
    fun rest barred => by
      have opens := barred.elim False.elim closed_begins
      rw [take_some_none (begins_char_stops rfl opens)]
      rfl
  have named := seq_drops (some_of_drops isWord) spaced fun rest barred => by
    have noArguments : dropClosed rest = none := by
      rw [Option.eq_none_iff_forall_ne_some]
      intro after dropped
      have opens := closed_begins (Option.isSome_iff_exists.mpr ⟨after, dropped⟩)
      exact not_begins (begins_char_stops rfl opens) barred
    rw [noArguments, Option.none_or, Option.bind_some,
      take_some_none (begins_stops (fun _ => word_not_blank) barred)]
    rfl
  have drops := seq_drops (one_drops (· == '@')) named fun _ barred => barred.elim
  refine drops_congr drops fun cs => ?_
  rw [drop_attribute_eq]
  congr 1
  funext rest
  rw [Option.bind_map]
  congr 1
  funext ⟨name, more⟩
  dsimp only [Function.comp]
  rw [drop_arguments_eq]
  cases dropClosed more with
  | none => rfl
  | some after => rfl

theorem take_keyword_eq {words : List String} (known : AllWords words) (free : PrefixFree words)
    (cs : List Char) :
    (takeKeyword words cs).map Prod.snd =
      (dropAny words cs).bind fun rest => (takeSome isBlank rest).map Prod.snd := by
  apply Option.ext
  intro rest
  simp only [Option.map_eq_some_iff, Option.bind_eq_some_iff, drop_any_iff free, Prod.exists,
    exists_eq_right, take_some_iff]
  constructor
  · rintro ⟨word, taken⟩
    obtain ⟨k, rfl, rfl, stops⟩ := keyword_exists taken
    exact ⟨k.gap ++ rest, ⟨k.word, k.listed, List.append_assoc _ _ _⟩, k.gap, rfl, k.spaced, stops⟩
  · rintro ⟨_, ⟨w, listed, rfl⟩, gap, rfl, spaced⟩
    have taken := keyword_taken_whole known ⟨w, gap, listed, spaced.toSomeOf⟩ spaced.stops
    rw [Keyword.text, List.append_assoc] at taken
    exact ⟨w.toList, taken⟩

theorem modifiers_prefix_free : PrefixFree modifierWords := by decide +kernel

theorem type_words_prefix_free : PrefixFree typeWords := by decide +kernel

theorem excluded_words_prefix_free : PrefixFree excludedWords := by decide +kernel

theorem modifier_drops : modifierExpression.Drops dropModifier (Begins isBlank) := by
  have drops := seq_drops (any_of_drops modifiers_prefix_free) (some_of_drops isBlank)
    fun _ barred => barred.elim
  exact drops_congr drops fun cs => (take_keyword_eq modifiers_all_words modifiers_prefix_free cs).symm

theorem no_keyword {words : List String} {rest : List Char} (stops : Stops isWord rest) :
    takeKeyword words rest = none := by
  rw [takeKeyword, take_some_none stops]
  rfl

theorem no_modifier {rest : List Char} (stops : Stops isWord rest) : dropModifier rest = none := by
  rw [dropModifier, no_keyword stops]
  rfl

theorem attribute_begins {rest : List Char} (dropped : (dropAttribute rest).isSome = true) :
    Begins (· == '@') rest := by
  rw [drop_attribute_eq] at dropped
  obtain ⟨after, eq⟩ := Option.isSome_iff_exists.mp dropped
  obtain ⟨inside, first, _⟩ := Option.bind_eq_some_iff.mp eq
  rw [drop_char_iff.mp first]
  rfl

theorem blank_no_attribute {rest : List Char} (begins : Begins isBlank rest) :
    dropAttribute rest = none := by
  rw [Option.eq_none_iff_forall_ne_some]
  intro after dropped
  have sign := attribute_begins (Option.isSome_iff_exists.mpr ⟨after, dropped⟩)
  exact not_begins (begins_char_stops rfl sign) begins

def keywordStep (s : Cursor) : Option Cursor :=
  (takeKeyword typeWords s.rest).map fun (word, rest) =>
    ⟨(s.to rest).front, rest, ⟨"keyword", s.front.length, word⟩ :: s.captures⟩

theorem keyword_taken_step (s : Cursor) :
    (((s.dropping (dropAny typeWords)).map (Cursor.capture "keyword" s)).bind
      (Cursor.dropping fun cs => (takeSome isBlank cs).map Prod.snd)) = keywordStep s := by
  have same := take_keyword_eq type_words_all_words type_words_prefix_free s.rest
  cases taken : takeKeyword typeWords s.rest with
  | none =>
    rw [taken] at same
    rw [keywordStep, taken, Option.map_none]
    cases dropped : dropAny typeWords s.rest with
    | none => rw [dropping_none dropped, Option.map_none, Option.bind_none]
    | some rest =>
      rw [dropped, Option.bind_some] at same
      rw [dropping_some dropped, Option.map_some, Option.bind_some]
      exact dropping_none same.symm
  | some run =>
    obtain ⟨_, rest⟩ := run
    obtain ⟨k, rfl, whole, stops⟩ := keyword_exists taken
    rw [Keyword.text, List.append_assoc] at whole
    have dropped := (drop_any_iff type_words_prefix_free).mpr ⟨k.word, k.listed, whole⟩
    have both : s.rest = (k.word.toList ++ k.gap) ++ rest := by rw [whole, List.append_assoc]
    have spaced : (takeSome isBlank (k.gap ++ rest)).map Prod.snd = some rest := by
      rw [take_some_iff.mpr ⟨rfl, k.spaced, stops⟩, Option.map_some]
    rw [keywordStep, taken, dropping_some dropped, Option.map_some, Option.bind_some, to_append whole,
      captured_part (t := ⟨_, _, _⟩) "keyword" whole, dropping_some (s := ⟨_, _, _⟩) spaced,
      to_append (s := ⟨_, _, _⟩) rfl, Option.map_some]
    dsimp only
    rw [to_append both, List.reverse_append, List.append_assoc]

theorem keyword_steps :
    (seq (group "keyword" (anyOf typeWords)) (someOf isBlank)).Steps keywordStep
      (Begins isBlank) := by
  have steps := seq_steps (group_steps "keyword" (any_of_drops type_words_prefix_free).steps)
    (some_of_drops isBlank).steps fun _ barred => barred.elim
  rwa [funext keyword_taken_step] at steps

theorem member_whole_iff (cs : List Char) :
    isOneOf excludedWords (cs.takeWhile isWord) = true ↔
      ∃ rest, dropAny excludedWords cs = some rest ∧ Stops isWord rest := by
  rw [one_of_iff]
  constructor
  · rintro ⟨w, listed, whole⟩
    refine ⟨cs.dropWhile isWord, (drop_any_iff excluded_words_prefix_free).mpr ⟨w, listed, ?_⟩,
      drop_while_stops isWord cs⟩
    rw [whole, List.takeWhile_append_dropWhile]
  · rintro ⟨rest, dropped, stops⟩
    obtain ⟨w, listed, rfl⟩ := drop_any_exists dropped
    have letters := List.all_eq_true.mp (excluded_words_all_words w listed).2
    exact ⟨w, listed, (take_while_append letters stops).symm⟩

theorem no_member_steps :
    noMember.Steps
      (fun s => if isOneOf excludedWords (s.rest.takeWhile isWord) then none else some s) Free := by
  have steps := seq_steps (any_of_drops excluded_words_prefix_free).steps
    (place_steps fun front rest => front.head?.any isWord != rest.head?.any isWord)
    fun _ barred => barred.elim
  intro onward s _
  have refusal : noMember.run onward s =
      if ((chain [anyOf excludedWords, boundary]).run finish s).isSome then none else onward s := rfl
  have same : ((chain [anyOf excludedWords, boundary]).run finish s).isSome =
      isOneOf excludedWords (s.rest.takeWhile isWord) := by
    have ran : (chain [anyOf excludedWords, boundary]).run finish s = _ := run_steps steps s
    rw [ran, Option.isSome_map, Bool.eq_iff_iff, member_whole_iff]
    cases dropped : dropAny excludedWords s.rest with
    | none => simp [dropping_none dropped]
    | some rest =>
      obtain ⟨w, listed, whole⟩ := drop_any_exists dropped
      have word : (w.toList.reverse ++ s.front).head?.any isWord = true := by
        obtain ⟨some, letters⟩ := excluded_words_all_words w listed
        obtain ⟨c, more, eq⟩ := List.exists_cons_of_ne_nil (mt List.reverse_eq_nil_iff.mp some)
        have member : c ∈ w.toList := List.mem_reverse.mp (eq ▸ List.mem_cons_self)
        rw [eq]
        exact List.all_eq_true.mp letters c member
      rw [dropping_some dropped, to_append whole, Option.bind_some]
      dsimp only
      rw [word]
      cases begins : rest.head?.any isWord with
      | false => simp [Stops, begins]
      | true => simp [Stops, begins]
  rw [refusal, same]
  dsimp only
  split
  · rfl
  · rfl

def dropSmall (cs : List Char) : Option (List Char) :=
  if cs.head?.any isAsciiLower then some (cs.dropWhile isWord) else none

theorem small_drops :
    (chain [one isAsciiLower, manyOf isWord]).Drops dropSmall (Begins isWord) := by
  have drops := seq_drops (one_drops isAsciiLower) (many_of_drops isWord) fun _ barred => barred.elim
  refine drops_congr drops fun cs => ?_
  cases cs with
  | nil => rfl
  | cons c cs =>
    cases lower : isAsciiLower c with
    | false => simp [dropSmall, dropOne, lower]
    | true => simp [dropSmall, dropOne, lower, lower_word lower]

def nameStep (s : Cursor) : Option Cursor :=
  if isSmallTypeName (s.rest.takeWhile isWord) then
    some ⟨(s.rest.takeWhile isWord).reverse ++ s.front, s.rest.dropWhile isWord,
      ⟨"at", s.front.length, s.rest.takeWhile isWord⟩ ::
        ⟨"name", s.front.length, s.rest.takeWhile isWord⟩ :: s.captures⟩
  else none

theorem name_taken_step (s : Cursor) :
    ((if isOneOf excludedWords (s.rest.takeWhile isWord) then none else some s).bind fun t =>
      ((t.dropping dropSmall).map (Cursor.capture "name" t)).map (Cursor.capture "at" t)) =
      nameStep s := by
  have begins : (s.rest.takeWhile isWord).head?.any isAsciiLower = s.rest.head?.any isAsciiLower := by
    cases s.rest with
    | nil => rfl
    | cons c rest =>
      cases lower : isAsciiLower c with
      | false => cases word : isWord c <;> simp [word, lower]
      | true => simp [lower_word lower]
  have cut : s.rest = s.rest.takeWhile isWord ++ s.rest.dropWhile isWord :=
    List.takeWhile_append_dropWhile.symm
  rw [nameStep, isSmallTypeName, member_words_eq, begins]
  cases isOneOf excludedWords (s.rest.takeWhile isWord) with
  | true => simp
  | false =>
    rw [if_neg Bool.false_ne_true, Option.bind_some]
    cases lower : s.rest.head?.any isAsciiLower with
    | false =>
      have missed : dropSmall s.rest = none := by
        rw [dropSmall, lower, if_neg Bool.false_ne_true]
      rw [dropping_none missed]
      rfl
    | true =>
      have dropped : dropSmall s.rest = some (s.rest.dropWhile isWord) := by
        rw [dropSmall, lower, if_pos rfl]
      have place : s.dropping dropSmall = s.dropping fun cs => some (cs.dropWhile isWord) := by
        rw [dropping_some dropped, Cursor.dropping, Option.map_some]
      rw [place, named_many, Option.map_some, captured_part (t := ⟨_, _, _⟩) "at" cut]
      rfl

theorem name_steps :
    (seq noMember (group "at" (group "name" (chain [one isAsciiLower, manyOf isWord])))).Steps
      nameStep (Begins isWord) := by
  have steps := seq_steps no_member_steps (group_steps "at" (group_steps "name" small_drops.steps))
    fun _ barred => barred.elim
  rwa [funext name_taken_step] at steps

theorem blank_no_name {s : Cursor} (begins : Begins isBlank s.rest) : nameStep s = none := by
  have stops : Stops isWord s.rest := begins_stops (fun _ => blank_not_word) begins
  rw [nameStep, take_while_stopped stops]
  rfl

theorem modifier_no_keyword {rest : List Char} (dropped : (dropModifier rest).isSome = true) :
    takeKeyword typeWords rest = none := by
  rw [Option.eq_none_iff_forall_ne_some]
  rintro ⟨word, after⟩ taken
  obtain ⟨k, _, rfl, stops⟩ := keyword_exists taken
  rw [keyword_no_modifier k stops] at dropped
  cases dropped

def declarationStep (s : Cursor) : Option Cursor := (keywordStep s).bind nameStep

def modifiedStep (s : Cursor) : Option Cursor :=
  (s.dropping fun cs => some (dropAll dropModifier cs)).bind declarationStep

def attributedStep (s : Cursor) : Option Cursor :=
  (s.dropping fun cs => some (dropAll dropAttribute cs)).bind modifiedStep

theorem no_declaration {s : Cursor} (missed : takeKeyword typeWords s.rest = none) :
    declarationStep s = none := by
  rw [declarationStep, keywordStep, missed]
  rfl

theorem nothing_modified {s : Cursor} (stops : Stops isWord s.rest) : modifiedStep s = none := by
  rw [modifiedStep, Cursor.dropping, drop_all_last (no_modifier stops), Option.map_some, to_rest,
    Option.bind_some, no_declaration (no_keyword stops)]

theorem nothing_attributed {s : Cursor} (begins : Begins isBlank s.rest) :
    attributedStep s = none := by
  rw [attributedStep, Cursor.dropping, drop_all_last (blank_no_attribute begins), Option.map_some,
    to_rest, Option.bind_some, nothing_modified (begins_stops (fun _ => blank_not_word) begins)]

theorem declaration_steps : declarationExpression.Steps declarationStep (Begins isWord) := by
  have steps := seq_steps keyword_steps name_steps fun _ => blank_no_name
  exact steps

theorem modified_steps :
    (seq (many modifierExpression) declarationExpression).Steps modifiedStep (Begins isWord) := by
  have modifiers := many_drops modifier_drops (peels_shorten modifier_peels) fun rest begins =>
    no_modifier (begins_stops (fun _ => blank_not_word) begins)
  refine seq_steps modifiers.steps declaration_steps fun t barred => no_declaration ?_
  rcases barred with blank | another
  · exact no_keyword (begins_stops (fun _ => blank_not_word) blank)
  · exact modifier_no_keyword another

theorem attributed_steps :
    (seq (many attributeExpression) (seq (many modifierExpression) declarationExpression)).Steps
      attributedStep (Begins isWord) := by
  have attributes := many_drops attribute_drops (peels_shorten attribute_peels) fun _ =>
    blank_no_attribute
  refine seq_steps attributes.steps modified_steps fun t barred => nothing_modified ?_
  rcases barred with blank | another
  · exact begins_stops (fun _ => blank_not_word) blank
  · exact begins_char_stops rfl (attribute_begins another)

theorem header_step (cs : List Char) :
    (Cursor.dropping (fun cs => some (cs.dropWhile isBlank)) ⟨[], cs, []⟩).bind attributedStep =
      declarationStep (Cursor.to ⟨[], cs, []⟩
        (dropAll dropModifier (dropAll dropAttribute (cs.dropWhile isBlank)))) := by
  have indented : cs.dropWhile isBlank <:+ cs := List.dropWhile_suffix isBlank
  have attributes : dropAll dropAttribute (cs.dropWhile isBlank) <:+ cs.dropWhile isBlank :=
    drop_all_suffix (fun _ _ => drop_attribute_suffix) _
  have modifiers : dropAll dropModifier (dropAll dropAttribute (cs.dropWhile isBlank)) <:+
      dropAll dropAttribute (cs.dropWhile isBlank) :=
    drop_all_suffix (fun _ _ => drop_modifier_suffix) _
  show declarationStep (((Cursor.to ⟨[], cs, []⟩ (cs.dropWhile isBlank)).to
    (dropAll dropAttribute (cs.dropWhile isBlank))).to _) = _
  rw [to_to indented attributes]
  show declarationStep ((Cursor.to ⟨[], cs, []⟩ (dropAll dropAttribute (cs.dropWhile isBlank))).to
    (dropAll dropModifier (dropAll dropAttribute (cs.dropWhile isBlank)))) = _
  rw [to_to (attributes.trans indented) modifiers]

theorem small_type_follows : smallTypeName.Follows smallTypeExpression := by
  have steps := seq_steps (many_of_drops isBlank).steps attributed_steps fun _ => nothing_attributed
  refine follows_line_start fun cs => ?_
  refine Eq.trans ?_ (found_at_steps steps [] cs).symm
  show findSmallType cs = _
  have reached := header_step cs
  have modified : dropAll dropModifier (dropAll dropAttribute (cs.dropWhile isBlank)) <:+ cs :=
    (drop_all_suffix (fun _ _ => drop_modifier_suffix) _).trans
      ((drop_all_suffix (fun _ _ => drop_attribute_suffix) _).trans (List.dropWhile_suffix isBlank))
  rw [reached]
  simp only [findSmallType, type_keywords_eq, Option.bind_eq_bind]
  generalize dropAll dropModifier (dropAll dropAttribute (cs.dropWhile isBlank)) = lead at modified ⊢
  have rests : (Cursor.to ⟨[], cs, []⟩ lead).rest = lead := rfl
  rw [declarationStep, keywordStep, rests]
  cases taken : takeKeyword typeWords lead with
  | none => rfl
  | some run =>
    obtain ⟨word, rest⟩ := run
    have suffix := take_keyword_suffix taken
    dsimp only [Option.map_some, Option.bind_some]
    rw [to_to modified suffix, nameStep]
    dsimp only
    split
    · have place := to_front_length (s := ⟨[], cs, []⟩) (suffix.trans modified)
      rw [place, List.length_nil, Nat.zero_add]
      rfl
    · rfl

end Pattern

end LineLint
