import LineLint.Proofs.Matching.Pieces
import LineLint.Rule.Builtin

/- What stands in front of the name of a declared type: white space, attributes, modifiers and a
   keyword. The parts are described one by one, and none has to be as long as can be; all the same a
   line has at most one such header with a name behind it, and dropping the parts finds it. -/
namespace LineLint
open LineLint.Text

@[ext]
structure Arguments where
  inner : List Char
  closed : ')' ∉ inner

def Arguments.text : Option Arguments → List Char
  | none => []
  | some arguments => '(' :: (arguments.inner ++ [')'])

/-- An attribute, with its arguments if it has any, and the white space after it. -/
@[ext]
structure Attribute where
  name : List Char
  arguments : Option Arguments
  gap : List Char
  named : SomeOf isWord name
  spaced : SomeOf isBlank gap

def Attribute.text (a : Attribute) : List Char :=
  '@' :: (a.name ++ (Arguments.text a.arguments ++ a.gap))

@[ext]
structure Keyword (words : List String) where
  word : String
  gap : List Char
  listed : word ∈ words
  spaced : SomeOf isBlank gap

def Keyword.text {words : List String} (k : Keyword words) : List Char := k.word.toList ++ k.gap

def modifierWords : List String :=
  ["public", "private", "fileprivate", "internal", "package", "open", "final", "indirect",
   "nonisolated", "distributed"]

def typeWords : List String := ["class", "struct", "enum", "protocol", "actor", "typealias"]

/-- What stands in front of the name of a declared type, and the text from there on. -/
@[ext]
structure TypeHeader (cs : List Char) where
  indent : List Char
  attributes : List Attribute
  modifiers : List (Keyword modifierWords)
  keyword : Keyword typeWords
  tail : List Char
  indented : Blank indent
  whole : indent ++ (attributes.flatMap Attribute.text ++
    (modifiers.flatMap Keyword.text ++ (keyword.text ++ tail))) = cs

namespace TypeHeader
variable {cs : List Char}

def lead (h : TypeHeader cs) : List Char :=
  h.indent ++ (h.attributes.flatMap Attribute.text ++
    (h.modifiers.flatMap Keyword.text ++ h.keyword.text))

theorem lead_tail (h : TypeHeader cs) : h.lead ++ h.tail = cs := by
  simpa only [lead, List.append_assoc] using h.whole

def fromKeyword (h : TypeHeader cs) : List Char := h.keyword.text ++ h.tail

def fromModifiers (h : TypeHeader cs) : List Char :=
  h.modifiers.flatMap Keyword.text ++ h.fromKeyword

def fromAttributes (h : TypeHeader cs) : List Char :=
  h.attributes.flatMap Attribute.text ++ h.fromModifiers

end TypeHeader

theorem arguments_close (arguments : Arguments) : ∀ c ∈ arguments.inner, (c != ')') = true := by
  intro c member
  rw [bne_iff_ne]
  rintro rfl
  exact arguments.closed member

theorem blank_stops_parenthesis {gap : List Char} (spaced : SomeOf isBlank gap) (rest : List Char) :
    Stops (· == '(') (gap ++ rest) := by
  apply stops_append spaced
  intro c blank
  rw [beq_eq_false_iff_ne]
  rintro rfl
  cases blank

section
variable {gap gap' : List Char}

theorem arguments_stop_words (arguments : Option Arguments) (spaced : SomeOf isBlank gap)
    (rest : List Char) :
    Stops isWord (Arguments.text arguments ++ (gap ++ rest)) := by
  cases arguments with
  | none => exact blank_stops_words spaced rest
  | some arguments => rfl

theorem arguments_dropped (arguments : Option Arguments) (spaced : SomeOf isBlank gap)
    (rest : List Char) :
    Pattern.dropArguments (Arguments.text arguments ++ (gap ++ rest)) = gap ++ rest := by
  cases arguments with
  | none =>
    have stops := blank_stops_parenthesis spaced rest
    show Pattern.dropArguments (gap ++ rest) = gap ++ rest
    unfold Pattern.dropArguments
    split
    · rename_i eq
      rw [eq] at stops
      cases stops
    · rfl
  | some arguments =>
    have dropped : (arguments.inner ++ ')' :: (gap ++ rest)).dropWhile (· != ')') =
        ')' :: (gap ++ rest) :=
      drop_while_append (arguments_close arguments) rfl
    simp only [Arguments.text, List.cons_append, List.append_assoc, List.nil_append,
      Pattern.dropArguments, dropped]

theorem arguments_exist {cs rest : List Char} (stops : Stops (· == '(') rest)
    (dropped : Pattern.dropArguments cs = rest) :
    ∃ arguments, cs = Arguments.text arguments ++ rest := by
  unfold Pattern.dropArguments at dropped
  split at dropped
  · rename_i inside
    split at dropped
    · rename_i after closing
      subst dropped
      have closed : ')' ∉ inside.takeWhile (· != ')') := by
        intro member
        have other := List.all_eq_true.mp List.all_takeWhile ')' member
        exact absurd rfl (bne_iff_ne.mp other)
      have cut := List.takeWhile_append_dropWhile (p := (· != ')')) (l := inside)
      rw [closing] at cut
      refine ⟨some ⟨_, closed⟩, ?_⟩
      simp only [Arguments.text, List.cons_append, List.append_assoc, List.nil_append, cut]
    -- Without a closing parenthesis the opening one is left, and that is no white space.
    · subst dropped
      cases stops
  · subst dropped
    exact ⟨none, rfl⟩

theorem arguments_unique {arguments arguments' : Option Arguments} (spaced : SomeOf isBlank gap)
    (spaced' : SomeOf isBlank gap')
    (same : Arguments.text arguments ++ gap = Arguments.text arguments' ++ gap') :
    arguments = arguments' ∧ gap = gap' := by
  have gaps : gap = gap' := by
    have dropped := arguments_dropped arguments spaced []
    have dropped' := arguments_dropped arguments' spaced' []
    rw [List.append_nil] at dropped dropped'
    rw [← dropped, ← dropped', same]
  subst gaps
  refine ⟨?_, rfl⟩
  have texts := List.append_cancel_right same
  cases arguments with
  | none =>
    cases arguments' with
    | none => rfl
    | some arguments' => cases texts
  | some arguments =>
    cases arguments' with
    | none => cases texts
    | some arguments' =>
      have inners := List.append_cancel_right (List.cons.inj texts).2
      exact congrArg some (Arguments.ext inners)

end

theorem attribute_peels : Pattern.Peels Pattern.dropAttribute Attribute.text where
  drops a rest stops := by
    have named := take_some_iff.mpr ⟨rfl, a.named, arguments_stop_words a.arguments a.spaced rest⟩
    have dropped := arguments_dropped a.arguments a.spaced rest
    have spaced := take_some_iff.mpr ⟨rfl, a.spaced, stops⟩
    simp only [Attribute.text, List.cons_append, List.append_assoc, Pattern.dropAttribute, named,
      Option.bind_eq_bind, Option.bind_some, dropped, spaced, Option.pure_def]
  piece cs rest taken := by
    unfold Pattern.dropAttribute at taken
    split at taken
    · simp only [Option.bind_eq_bind, Option.bind_eq_some_iff, Option.pure_def] at taken
      obtain ⟨⟨name, more⟩, first, ⟨gap, last⟩, second, eq⟩ := taken
      cases eq
      obtain ⟨rfl, named⟩ := take_some_iff.mp first
      obtain ⟨cut, spaced⟩ := take_some_iff.mp second
      obtain ⟨arguments, rfl⟩ :=
        arguments_exist (blank_stops_parenthesis spaced.toSomeOf last) cut
      refine ⟨⟨name, arguments, gap, named.toSomeOf, spaced.toSomeOf⟩, ?_⟩
      simp only [Attribute.text, List.cons_append, List.append_assoc]
    · cases taken
  opens a rest := rfl
  nonempty a := List.cons_ne_nil _ _
  unique a b same := by
    have stops (c : Attribute) : Stops isWord (Arguments.text c.arguments ++ c.gap) := by
      have stops := arguments_stop_words c.arguments c.spaced []
      rwa [List.append_nil] at stops
    obtain ⟨names, rests⟩ :=
      run_unique a.named.all (stops a) b.named.all (stops b) (List.cons.inj same).2
    obtain ⟨arguments, gaps⟩ := arguments_unique a.spaced b.spaced rests
    exact Attribute.ext names arguments gaps

def AllWords (words : List String) : Prop :=
  ∀ word ∈ words, word.toList ≠ [] ∧ word.toList.all isWord = true

theorem modifiers_eq : Pattern.modifiers = modifierWords := rfl

theorem type_keywords_eq : Pattern.typeKeywords = typeWords := rfl

theorem modifiers_all_words : AllWords modifierWords := by
  unfold AllWords
  decide +kernel

theorem type_words_all_words : AllWords typeWords := by
  unfold AllWords
  decide +kernel

theorem one_of_iff {words : List String} {cs : List Char} :
    Pattern.isOneOf words cs = true ↔ ∃ word ∈ words, word.toList = cs := by
  simp only [Pattern.isOneOf, List.any_eq_true, beq_iff_eq]

section
variable {words : List String}

theorem keyword_word (known : AllWords words) (k : Keyword words) :
    SomeOf isWord k.word.toList :=
  ⟨(known k.word k.listed).1, List.all_eq_true.mp (known k.word k.listed).2⟩

theorem keyword_taken (known : AllWords words) {others : List String} (k : Keyword words)
    {rest : List Char} (stops : Stops isBlank rest) :
    Pattern.takeKeyword others (k.text ++ rest) =
      if Pattern.isOneOf others k.word.toList then some (k.word.toList, rest) else none := by
  have word : IsRun isWord k.word.toList (k.gap ++ rest) :=
    ⟨keyword_word known k, blank_stops_words k.spaced rest⟩
  have spaced := take_some_iff.mpr ⟨rfl, k.spaced, stops⟩
  simp only [Keyword.text, List.append_assoc, Pattern.takeKeyword, take_some_iff.mpr ⟨rfl, word⟩,
    Option.bind_eq_bind, Option.bind_some, spaced, Option.pure_def]

theorem keyword_taken_whole (known : AllWords words) (k : Keyword words) {rest : List Char}
    (stops : Stops isBlank rest) :
    Pattern.takeKeyword words (k.text ++ rest) = some (k.word.toList, rest) := by
  rw [keyword_taken known k stops, if_pos (one_of_iff.mpr ⟨k.word, k.listed, rfl⟩)]

theorem keyword_exists {cs word rest : List Char}
    (taken : Pattern.takeKeyword words cs = some (word, rest)) :
    ∃ k : Keyword words, k.word.toList = word ∧ cs = k.text ++ rest ∧ Stops isBlank rest := by
  simp only [Pattern.takeKeyword, Option.bind_eq_bind, Option.bind_eq_some_iff] at taken
  obtain ⟨⟨name, more⟩, first, known⟩ := taken
  obtain ⟨rfl, _⟩ := take_some_iff.mp first
  split at known
  · rename_i among
    obtain ⟨⟨gap, last⟩, second, eq⟩ := Option.bind_eq_some_iff.mp known
    cases eq
    obtain ⟨rfl, spaced⟩ := take_some_iff.mp second
    obtain ⟨word, listed, rfl⟩ := one_of_iff.mp among
    exact ⟨⟨word, gap, listed, spaced.toSomeOf⟩, rfl, (List.append_assoc _ _ _).symm, spaced.stops⟩
  · cases known

theorem keyword_unique (known : AllWords words) {k l : Keyword words} {rest rest' : List Char}
    (stops : Stops isBlank rest) (stops' : Stops isBlank rest')
    (same : k.text ++ rest = l.text ++ rest') : k = l ∧ rest = rest' := by
  have taken := keyword_taken_whole known k stops
  rw [same, keyword_taken_whole known l stops'] at taken
  obtain ⟨word, rfl⟩ := Prod.mk.inj (Option.some.inj taken)
  have texts := List.append_cancel_right same
  rw [Keyword.text, Keyword.text, word] at texts
  exact ⟨Keyword.ext (String.toList_inj.mp word.symm) (List.append_cancel_left texts), rfl⟩

end

theorem modifier_peels : Pattern.Peels Pattern.dropModifier
    (Keyword.text : Keyword modifierWords → List Char) where
  drops k rest stops := by
    rw [Pattern.dropModifier, modifiers_eq, keyword_taken_whole modifiers_all_words k stops,
      Option.map_some]
  piece cs rest taken := by
    obtain ⟨⟨word, rest⟩, found, rfl⟩ := Option.map_eq_some_iff.mp taken
    obtain ⟨k, _, eq, _⟩ := keyword_exists found
    exact ⟨k, eq⟩
  opens k rest := by
    rw [Keyword.text, List.append_assoc]
    exact word_stops_blanks (keyword_word modifiers_all_words k) _
  nonempty k := by
    intro none
    exact (keyword_word modifiers_all_words k).some (List.append_eq_nil_iff.mp none).1
  unique k l same := by
    have ends : Stops isBlank [] := rfl
    have whole : k.text ++ [] = l.text ++ [] := congrArg (· ++ []) same
    exact (keyword_unique modifiers_all_words ends ends whole).1

theorem word_is_no_attribute {word : List Char} (some : SomeOf isWord word) (rest : List Char) :
    Pattern.dropAttribute (word ++ rest) = none := by
  have stops : Stops (· == '@') (word ++ rest) := by
    apply stops_append some
    intro c holds
    rw [beq_eq_false_iff_ne]
    rintro rfl
    cases holds
  unfold Pattern.dropAttribute
  split
  · rename_i eq
    rw [eq] at stops
    cases stops
  · rfl

theorem keyword_no_modifier (k : Keyword typeWords) {rest : List Char}
    (stops : Stops isBlank rest) : Pattern.dropModifier (k.text ++ rest) = none := by
  have others : ∀ word ∈ typeWords,
      Pattern.isOneOf Pattern.modifiers word.toList = false := by
    decide +kernel
  rw [Pattern.dropModifier, keyword_taken type_words_all_words k stops, others k.word k.listed]
  rfl

section
variable {cs : List Char}

theorem from_keyword_open (h : TypeHeader cs) : Stops isBlank h.fromKeyword := by
  rw [TypeHeader.fromKeyword, Keyword.text, List.append_assoc]
  exact word_stops_blanks (keyword_word type_words_all_words h.keyword) _

theorem from_modifiers_open (h : TypeHeader cs) : Stops isBlank h.fromModifiers :=
  Pattern.pieces_open modifier_peels (from_keyword_open h) h.modifiers

theorem from_attributes_open (h : TypeHeader cs) : Stops isBlank h.fromAttributes :=
  Pattern.pieces_open attribute_peels (from_modifiers_open h) h.attributes

theorem from_modifiers_no_attribute (h : TypeHeader cs) :
    Pattern.dropAttribute h.fromModifiers = none := by
  unfold TypeHeader.fromModifiers
  cases h.modifiers with
  | nil =>
    rw [List.flatMap_nil, List.nil_append, TypeHeader.fromKeyword, Keyword.text, List.append_assoc]
    exact word_is_no_attribute (keyword_word type_words_all_words h.keyword) _
  | cons k ks =>
    rw [List.flatMap_cons, Keyword.text, List.append_assoc, List.append_assoc]
    exact word_is_no_attribute (keyword_word modifiers_all_words k) _

theorem header_read (h : TypeHeader cs) (stops : Stops isBlank h.tail) :
    Pattern.dropAll Pattern.dropModifier
      (Pattern.dropAll Pattern.dropAttribute (cs.dropWhile isBlank)) = h.fromKeyword := by
  have indented : cs.dropWhile isBlank = h.fromAttributes := by
    have whole : h.indent ++ h.fromAttributes = cs := h.whole
    have dropped := drop_while_append h.indented (from_attributes_open h)
    rwa [whole] at dropped
  have attributes : Pattern.dropAll Pattern.dropAttribute h.fromAttributes = h.fromModifiers :=
    Pattern.drop_all_pieces attribute_peels (from_modifiers_open h) (from_modifiers_no_attribute h) _
  rw [indented, attributes]
  exact Pattern.drop_all_pieces modifier_peels (from_keyword_open h)
    (keyword_no_modifier h.keyword stops) _

theorem header_exists {keyword rest : List Char}
    (taken : Pattern.takeKeyword typeWords (Pattern.dropAll Pattern.dropModifier
      (Pattern.dropAll Pattern.dropAttribute (cs.dropWhile isBlank))) = some (keyword, rest)) :
    ∃ h : TypeHeader cs, h.keyword.word.toList = keyword ∧ h.tail = rest := by
  obtain ⟨k, word, read, _⟩ := keyword_exists taken
  obtain ⟨attributes, attributed⟩ := Pattern.drop_all_exists attribute_peels (cs.dropWhile isBlank)
  obtain ⟨modifiers, modified⟩ := Pattern.drop_all_exists modifier_peels
    (Pattern.dropAll Pattern.dropAttribute (cs.dropWhile isBlank))
  have indented : Blank (cs.takeWhile isBlank) :=
    List.all_eq_true.mp List.all_takeWhile
  refine ⟨⟨cs.takeWhile isBlank, attributes, modifiers, k, rest, indented, ?_⟩, word, rfl⟩
  rw [← read, ← modified, ← attributed]
  exact List.takeWhile_append_dropWhile

theorem lead_offset (h : TypeHeader cs) : Pattern.offset cs h.tail = h.lead.length := by
  have := congrArg List.length h.lead_tail
  rw [List.length_append] at this
  unfold Pattern.offset
  omega

theorem header_unique {h h' : TypeHeader cs} (stops : Stops isBlank h.tail)
    (stops' : Stops isBlank h'.tail) : h = h' := by
  have whole : h.indent ++ h.fromAttributes = h'.indent ++ h'.fromAttributes :=
    h.whole.trans h'.whole.symm
  obtain ⟨indent, attributed⟩ := run_unique h.indented (from_attributes_open h) h'.indented
    (from_attributes_open h') whole
  obtain ⟨attributes, modified⟩ := Pattern.pieces_unique attribute_peels (from_modifiers_open h)
    (from_modifiers_no_attribute h) (from_modifiers_open h') (from_modifiers_no_attribute h')
    attributed
  obtain ⟨modifiers, declared⟩ := Pattern.pieces_unique modifier_peels (from_keyword_open h)
    (keyword_no_modifier h.keyword stops) (from_keyword_open h')
    (keyword_no_modifier h'.keyword stops') modified
  obtain ⟨keyword, tail⟩ := keyword_unique type_words_all_words stops stops' declared
  exact TypeHeader.ext indent attributes modifiers keyword tail

end

end LineLint
