import LineLint.Proofs.Matching.Determined

/- The expressions that larger ones are made of, and what each of them drops: words, runs of
   characters of a class, and tests of a place. -/
namespace LineLint.Expression
open LineLint.Text

def chain : List Expression → Expression
  | [] => empty
  | [e] => e
  | e :: es => seq e (chain es)

def char (c : Char) : Expression := one (· == c)

def word (cs : List Char) : Expression := cs.foldr (fun c e => seq (char c) e) empty

def anyOf (words : List String) : Expression :=
  words.foldr (fun w e => either (word w.toList) e) (place fun _ _ => false)

def manyOf (holds : Char → Bool) : Expression := many (one holds)

def someOf (holds : Char → Bool) : Expression := seq (one holds) (manyOf holds)

def lineStart : Expression := place fun front _ => front.isEmpty

def isLineEnd (rest : List Char) : Bool := rest == [] || rest == ['\n']

def lineEnd : Expression := place fun _ rest => isLineEnd rest

def boundary : Expression := place fun front rest => front.head?.any isWord != rest.head?.any isWord

def times : Nat → Expression → Expression
  | 0, _ => empty
  | n + 1, e => seq e (times n e)

def Begins (holds : Char → Bool) (rest : List Char) : Prop := rest.head?.any holds = true

section
variable {holds other : Char → Bool} {cs rest : List Char}

theorem begins_stops (apart : ∀ c, holds c = true → other c = false) (begins : Begins holds rest) :
    Stops other rest := by
  cases rest with
  | nil => rfl
  | cons c rest => exact apart c begins

theorem not_begins (stops : Stops holds rest) : ¬ Begins holds rest :=
  Bool.eq_false_iff.mp stops

theorem begins_class_stops {d : Char} (outside : holds d = false) (begins : Begins holds rest) :
    Stops (· == d) rest := by
  refine begins_stops (fun c held => ?_) begins
  rw [beq_eq_false_iff_ne]
  rintro rfl
  rw [outside] at held
  cases held

theorem begins_char_stops {d : Char} (outside : holds d = false) (begins : Begins (· == d) rest) :
    Stops holds rest := by
  refine begins_stops (fun c same => ?_) begins
  rw [beq_iff_eq.mp same]
  exact outside

theorem take_while_stopped (stops : Stops holds cs) : cs.takeWhile holds = [] := by
  have all : ∀ c ∈ ([] : List Char), holds c = true := fun c member => by cases member
  exact take_while_append all stops

theorem drop_while_stopped (stops : Stops holds cs) : cs.dropWhile holds = cs := by
  have all : ∀ c ∈ ([] : List Char), holds c = true := fun c member => by cases member
  exact drop_while_append all stops

theorem drop_one_begins (dropped : (dropOne holds rest).isSome = true) : Begins holds rest := by
  obtain ⟨more, eq⟩ := Option.isSome_iff_exists.mp dropped
  obtain ⟨c, held, rfl⟩ := drop_one_iff.mp eq
  exact held

theorem drop_one_none (stops : Stops holds rest) : dropOne holds rest = none := by
  rw [Option.eq_none_iff_forall_ne_some]
  intro more dropped
  exact not_begins stops (drop_one_begins (Option.isSome_iff_exists.mpr ⟨more, dropped⟩))

theorem take_some_none (stops : Stops holds rest) : takeSome holds rest = none := by
  rw [Option.eq_none_iff_forall_ne_some]
  rintro ⟨run, more⟩ taken
  obtain ⟨rfl, run⟩ := take_some_iff.mp taken
  obtain ⟨c, cs, rfl⟩ := List.exists_cons_of_ne_nil run.some
  exact not_begins stops (run.all c List.mem_cons_self)

theorem drop_char_iff {c : Char} : dropOne (· == c) cs = some rest ↔ cs = c :: rest := by
  rw [drop_one_iff]
  constructor
  · rintro ⟨d, same, rfl⟩
    rw [beq_iff_eq.mp same]
  · rintro rfl
    exact ⟨c, beq_self_eq_true c, rfl⟩

theorem drop_char_none {c : Char} (other : ∀ rest, cs = c :: rest → False) :
    dropOne (· == c) cs = none := by
  rw [Option.eq_none_iff_forall_ne_some]
  intro rest dropped
  exact other rest (drop_char_iff.mp dropped)

theorem drop_one_shortens (holds : Char → Bool) : Shortens (dropOne holds) := by
  intro cs rest dropped
  obtain ⟨c, _, rfl⟩ := drop_one_iff.mp dropped
  exact Nat.lt_succ_self _

theorem drop_all_while (holds : Char → Bool) (cs : List Char) :
    Pattern.dropAll (dropOne holds) cs = cs.dropWhile holds := by
  induction cs with
  | nil => rfl
  | cons c cs ih =>
    cases held : holds c with
    | true =>
      have dropped : dropOne holds (c :: cs) = some cs := if_pos held
      rw [drop_all_next (drop_one_shortens holds) dropped, ih, List.dropWhile_cons, held,
        if_pos rfl]
    | false =>
      have kept : dropOne holds (c :: cs) = none := if_neg (Bool.eq_false_iff.mp held)
      rw [drop_all_last kept, List.dropWhile_cons, held, if_neg Bool.false_ne_true]

theorem many_of_drops (holds : Char → Bool) :
    (manyOf holds).Drops (fun cs => some (cs.dropWhile holds)) (Begins holds) := by
  have drops := many_drops (one_drops holds) (drop_one_shortens holds) fun _ barred => barred.elim
  refine drops_congr (drops_mono drops ?_) fun cs => congrArg some (drop_all_while holds cs)
  rintro rest (barred | dropped)
  · exact barred.elim
  · exact drop_one_begins dropped

theorem some_of_drops (holds : Char → Bool) :
    (someOf holds).Drops (fun cs => (takeSome holds cs).map Prod.snd) (Begins holds) := by
  have drops := seq_drops (one_drops holds) (many_of_drops holds) fun _ barred => barred.elim
  refine drops_congr drops fun cs => ?_
  cases cs with
  | nil => rfl
  | cons c cs =>
    cases held : holds c with
    | true => simp [dropOne, takeSome, span, held]
    | false => simp [dropOne, takeSome, span, held]

theorem empty_drops : empty.Drops some Free where
  steps onward s _ := by
    rw [Cursor.dropping, Option.map_some, to_rest]
    rfl
  suffix dropped := by
    cases dropped
    exact List.suffix_rfl

theorem times_drops (holds : Char → Bool) (n : Nat) :
    (times n (one holds)).Drops
      (fun cs => if n ≤ (cs.takeWhile holds).length then some (cs.drop n) else none) Free := by
  induction n with
  | zero => exact drops_congr empty_drops fun cs => (if_pos (Nat.zero_le _)).symm
  | succ n ih =>
    have drops := seq_drops (one_drops holds) ih fun _ barred => barred.elim
    refine drops_congr drops fun cs => ?_
    cases cs with
    | nil => rfl
    | cons c cs =>
      cases held : holds c with
      | true => simp [dropOne, held]
      | false => simp [dropOne, held]

theorem word_drops (cs : List Char) : (word cs).Drops (dropWord cs) Free := by
  induction cs with
  | nil => exact drops_congr empty_drops fun cs => by cases cs <;> rfl
  | cons c cs ih =>
    have drops := seq_drops (one_drops (· == c)) ih fun _ barred => barred.elim
    refine drops_congr drops fun ds => ?_
    cases ds with
    | nil => rfl
    | cons d ds =>
      by_cases same : c = d
      · simp [dropOne, dropWord, same]
      · simp [dropOne, dropWord, same, Ne.symm same]

end

def dropAny (words : List String) (cs : List Char) : Option (List Char) :=
  words.findSome? fun w => dropWord w.toList cs

def PrefixFree (words : List String) : Prop :=
  words.Pairwise fun v w => ¬ v.toList <+: w.toList ∧ ¬ w.toList <+: v.toList

instance (words : List String) : Decidable (PrefixFree words) :=
  inferInstanceAs (Decidable (List.Pairwise _ words))

section
variable {words : List String} {cs rest : List Char}

theorem drop_any_exists (dropped : dropAny words cs = some rest) :
    ∃ w ∈ words, cs = w.toList ++ rest := by
  obtain ⟨w, member, found⟩ := List.exists_of_findSome?_eq_some dropped
  exact ⟨w, member, drop_word_eq_some.mp found⟩

theorem other_words_dropped {w : String} (apart : ∀ v ∈ words, ¬ w.toList <+: v.toList ∧
    ¬ v.toList <+: w.toList) (dropped : dropWord w.toList cs = some rest) :
    dropAny words cs = none := by
  rw [Option.eq_none_iff_forall_ne_some]
  intro more found
  obtain ⟨v, member, whole⟩ := drop_any_exists found
  have first : w.toList <+: cs := ⟨rest, (drop_word_eq_some.mp dropped).symm⟩
  have second : v.toList <+: cs := ⟨more, whole.symm⟩
  rcases List.prefix_or_prefix_of_prefix first second with within | within
  · exact (apart v member).1 within
  · exact (apart v member).2 within

theorem any_of_drops (free : PrefixFree words) : (anyOf words).Drops (dropAny words) Free := by
  induction words with
  | nil =>
    refine ⟨fun onward s _ => rfl, fun dropped => ?_⟩
    cases dropped
  | cons w words ih =>
    obtain ⟨apart, later⟩ := List.pairwise_cons.mp free
    have drops := either_drops (word_drops w.toList) (ih later) fun cs rest dropped =>
      other_words_dropped apart dropped
    refine drops_congr drops fun cs => ?_
    rw [dropAny, dropAny, List.findSome?_cons]
    cases dropWord w.toList cs with
    | none => rfl
    | some rest => rfl

theorem drop_any_iff (free : PrefixFree words) :
    dropAny words cs = some rest ↔ ∃ w ∈ words, cs = w.toList ++ rest := by
  refine ⟨drop_any_exists, ?_⟩
  rintro ⟨w, member, whole⟩
  induction words with
  | nil => cases member
  | cons v words ih =>
    obtain ⟨apart, later⟩ := List.pairwise_cons.mp free
    rw [dropAny, List.findSome?_cons]
    rcases List.mem_cons.mp member with rfl | among
    · rw [drop_word_eq_some.mpr whole]
    · cases dropped : dropWord v.toList cs with
      | none => exact ih later among
      | some more =>
        have missed := other_words_dropped apart dropped
        rw [ih later among] at missed
        cases missed

end

section
variable {holds : Char → Bool} {onward : Onward}

theorem many_of_next (front : List Char) {c : Char} (held : holds c = true) (rest : List Char)
    (captures : List Capture) :
    (manyOf holds).run onward ⟨front, c :: rest, captures⟩ =
      ((manyOf holds).run onward ⟨c :: front, rest, captures⟩).or
        (onward ⟨front, c :: rest, captures⟩) := by
  simp [manyOf, run, again, held]

theorem many_of_last {s : Cursor} (stops : Stops holds s.rest) :
    (manyOf holds).run onward s = onward s := by
  obtain ⟨front, rest, captures⟩ := s
  cases rest with
  | nil => rfl
  | cons c rest =>
    have other : holds c = false := stops
    simp [manyOf, run, again, other]

theorem many_of_greedy
    (greedy : ∀ s : Cursor, Begins holds s.rest →
      onward ⟨(s.rest.takeWhile holds).reverse ++ s.front, s.rest.dropWhile holds, s.captures⟩ = none →
        onward s = none) (front rest : List Char) (captures : List Capture) :
    (manyOf holds).run onward ⟨front, rest, captures⟩ =
      onward ⟨(rest.takeWhile holds).reverse ++ front, rest.dropWhile holds, captures⟩ := by
  induction rest generalizing front with
  | nil => rfl
  | cons c rest ih =>
    cases held : holds c with
    | false =>
      have stops : Stops holds (Cursor.mk front (c :: rest) captures).rest := held
      rw [many_of_last stops, List.takeWhile_cons, List.dropWhile_cons, held]
      rfl
    | true =>
      have fewer := greedy ⟨front, c :: rest, captures⟩ held
      rw [many_of_next front held, ih]
      simp only [List.takeWhile_cons, List.dropWhile_cons, held, if_true, List.reverse_cons,
        List.append_assoc, List.cons_append, List.nil_append] at fewer ⊢
      cases out : onward ⟨(rest.takeWhile holds).reverse ++ c :: front, rest.dropWhile holds, captures⟩ with
      | none => rw [fewer out, Option.none_or]
      | some found => rfl

end

theorem boundary_steps {e : Expression} {drop : List Char → Option (List Char)}
    {bars : List Char → Prop} (drops : e.Drops drop bars)
    (words : ∀ {cs rest}, drop cs = some rest → Begins isWord cs) :
    (seq boundary e).Steps
      (fun s => if s.front.head?.any isWord then none else s.dropping drop) bars := by
  intro onward s settles
  have tested : (seq boundary e).run onward s =
      if s.front.head?.any isWord != s.rest.head?.any isWord then e.run onward s else none := rfl
  rw [tested, drops.steps onward s settles]
  dsimp only
  cases dropped : drop s.rest with
  | none => simp [dropping_none dropped]
  | some rest =>
    have word : s.rest.head?.any isWord = true := words dropped
    rw [word]
    cases s.front.head?.any isWord with
    | false => rfl
    | true => rfl

section
variable {s : Cursor} {holds : Char → Bool}

theorem captured_part {t : Cursor} {taken : List Char} (name : String)
    (cut : s.rest = taken ++ t.rest) :
    Cursor.capture name s t = { t with captures := ⟨name, s.front.length, taken⟩ :: t.captures } := by
  rw [Cursor.capture, cut, List.length_append, Nat.add_sub_cancel, List.take_left]

theorem captured_one (name : String) (c : Char) (front front' rest : List Char)
    (captures captures' : List Capture) :
    Cursor.capture name ⟨front, c :: rest, captures⟩ ⟨front', rest, captures'⟩ =
      ⟨front', rest, ⟨name, front.length, [c]⟩ :: captures'⟩ := by
  have cut : (Cursor.mk front (c :: rest) captures).rest = [c] ++ rest := rfl
  exact captured_part (t := ⟨front', rest, captures'⟩) name cut

theorem named_some (name : String) :
    (s.dropping fun cs => (takeSome holds cs).map Prod.snd).map (Cursor.capture name s) =
      (takeSome holds s.rest).map fun (taken, rest) =>
        ⟨taken.reverse ++ s.front, rest, ⟨name, s.front.length, taken⟩ :: s.captures⟩ := by
  rw [Cursor.dropping]
  cases found : takeSome holds s.rest with
  | none => rfl
  | some run =>
    obtain ⟨taken, rest⟩ := run
    obtain ⟨cut, _⟩ := take_some_iff.mp found
    simp only [Option.map_some, to_append cut, captured_part (t := ⟨_, _, _⟩) name cut]

theorem dropping_many (holds : Char → Bool) (s : Cursor) :
    (s.dropping fun cs => some (cs.dropWhile holds)) =
      some ⟨(s.rest.takeWhile holds).reverse ++ s.front, s.rest.dropWhile holds, s.captures⟩ := by
  have cut : s.rest = s.rest.takeWhile holds ++ s.rest.dropWhile holds :=
    List.takeWhile_append_dropWhile.symm
  rw [Cursor.dropping, Option.map_some, to_append cut]

theorem dropping_many_stopped (stops : Stops holds s.rest) :
    (s.dropping fun cs => some (cs.dropWhile holds)) = some s := by
  rw [Cursor.dropping, drop_while_stopped stops, Option.map_some, to_rest]

theorem named_many (name : String) :
    (s.dropping fun cs => some (cs.dropWhile holds)).map (Cursor.capture name s) =
      some ⟨(s.rest.takeWhile holds).reverse ++ s.front, s.rest.dropWhile holds,
        ⟨name, s.front.length, s.rest.takeWhile holds⟩ :: s.captures⟩ := by
  have cut : s.rest = s.rest.takeWhile holds ++ s.rest.dropWhile holds :=
    List.takeWhile_append_dropWhile.symm
  rw [dropping_many, Option.map_some, captured_part (t := ⟨_, _, _⟩) name cut]

end

theorem word_names (cs : List Char) : (word cs).names = [] := by
  induction cs with
  | nil => rfl
  | cons c cs ih => exact ih

end LineLint.Expression
