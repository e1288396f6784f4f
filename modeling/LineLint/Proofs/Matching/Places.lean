import LineLint.Matcher.Blanks
import LineLint.Matcher.Symbol
import LineLint.Matcher.TypeName
import LineLint.Proofs.Text.Search

/- Where the patterns of the built-in rules point: the text from there on begins with what the
   pattern is named for. -/
namespace LineLint.Pattern
open LineLint.Text

/-- A column of a match is always one of a character, and what stands from there on is as described,
    given the named parts of the match. -/
def PointsAt (p : Pattern) (seen : List (String × String) → List Char → Prop) : Prop :=
  ∀ cs found, p.find cs = some found →
    ∃ position, found.column = position + 1 ∧ seen found.params (cs.drop position)

theorem drop_offset {cs ending : List Char} (suffix : ending <:+ cs) :
    cs.drop (offset cs ending) = ending :=
  (List.suffix_iff_eq_drop.mp suffix).symm

theorem character_points (subject : Subject) (sought : Char) :
    (character subject sought).PointsAt fun _ place => [sought] <+: place := by
  intro cs found hit
  obtain ⟨⟨n, _⟩, search, rfl⟩ := Option.map_eq_some_iff.mp hit
  obtain ⟨_, accepted⟩ := leftmost_eq_some search
  refine ⟨n, rfl, ?_⟩
  split at accepted
  · rename_i head
    obtain ⟨rest, eq⟩ := List.head?_eq_some_iff.mp head
    exact ⟨rest, eq.symm⟩
  · cases accepted

theorem word_points (sought : String) :
    (word sought).PointsAt fun _ place => sought.toList <+: place := by
  intro cs found hit
  obtain ⟨⟨n, rest⟩, search, rfl⟩ := Option.map_eq_some_iff.mp hit
  obtain ⟨_, accepted⟩ := leftmost_eq_some search
  exact ⟨n, rfl, rest, (drop_word_at_eq_some.mp accepted).2.symm⟩

theorem lone_brace_points : loneBrace.PointsAt fun _ place => ['{'] <+: place := by
  intro cs found hit
  simp only [loneBrace, findLoneBrace, span] at hit
  split at hit
  · rename_i before after eq
    split at hit
    · cases hit
      refine ⟨before.length, rfl, after, ?_⟩
      obtain ⟨rfl, rest⟩ := Prod.mk.inj eq
      rw [drop_length_take_while, rest]
      rfl
    · cases hit
  · cases hit

theorem drop_binder_suffix {before : Option Char} {cs rest : List Char}
    (found : dropBinder before cs = some rest) : rest <:+ cs := by
  simp only [dropBinder, Option.bind_eq_bind, Option.bind_eq_some_iff, Option.pure_def,
    Option.or_eq_some_iff] at found
  obtain ⟨tail, binder, ⟨blanks, rest'⟩, taken, eq⟩ := found
  cases eq
  have ending : tail <:+ cs := by
    rcases binder with first | ⟨_, second⟩
    · exact ⟨_, (drop_word_at_eq_some.mp first).2.symm⟩
    · exact ⟨_, (drop_word_at_eq_some.mp second).2.symm⟩
  exact (take_some_suffix taken).trans ending

theorem drop_add_offset {cs ending : List Char} {n : Nat} (suffix : ending <:+ cs.drop n) :
    cs.drop (n + offset (cs.drop n) ending) = ending := by
  rw [← List.drop_drop, drop_offset suffix]

theorem misplaced_colon_points : misplacedColon.PointsAt fun _ place => [':'] <+: place := by
  intro cs found hit
  obtain ⟨⟨n, colon, name⟩, search, rfl⟩ := Option.map_eq_some_iff.mp hit
  obtain ⟨_, accepted⟩ := leftmost_eq_some search
  simp only [colonAfterName, Option.bind_eq_bind, Option.bind_eq_some_iff, span] at accepted
  obtain ⟨rest, binder, ⟨name', rest'⟩, named, colonRest⟩ := accepted
  split at colonRest
  · rename_i blanks after eq
    split at colonRest
    · cases colonRest
      have ending : ':' :: after <:+ cs.drop n := by
        have last : ':' :: after <:+ rest' := (Prod.mk.inj eq).2 ▸ List.dropWhile_suffix isBlank
        exact last.trans ((take_some_suffix named).trans (drop_binder_suffix binder))
      refine ⟨n + offset (cs.drop n) (':' :: after), rfl, after, ?_⟩
      rw [drop_add_offset ending]
      rfl
    · cases colonRest
  · cases colonRest

def Names (params : List (String × String)) (place : List Char) : Prop :=
  place.takeWhile isWord ≠ [] ∧
    params.lookup "name" = some (String.ofList (place.takeWhile isWord))

theorem hungarian_points : hungarian.PointsAt Names := by
  intro cs found hit
  obtain ⟨⟨n, start, name⟩, search, rfl⟩ := Option.map_eq_some_iff.mp hit
  obtain ⟨_, accepted⟩ := leftmost_eq_some search
  simp only [hungarianName, Option.bind_eq_bind, Option.bind_eq_some_iff] at accepted
  obtain ⟨rest, binder, named⟩ := accepted
  split at named
  · rename_i prefixed
    cases named
    refine ⟨n + offset (cs.drop n) rest, rfl, ?_⟩
    rw [drop_add_offset (drop_binder_suffix binder)]
    refine ⟨fun none => ?_, rfl⟩
    rw [none] at prefixed
    cases prefixed
  · cases named

theorem take_keyword_suffix {words : List String} {cs keyword rest : List Char}
    (found : takeKeyword words cs = some (keyword, rest)) : rest <:+ cs := by
  simp only [takeKeyword, Option.bind_eq_bind, Option.bind_eq_some_iff] at found
  obtain ⟨⟨word, more⟩, taken, known⟩ := found
  split at known
  · obtain ⟨⟨blanks, last⟩, separated, eq⟩ := Option.bind_eq_some_iff.mp known
    cases eq
    exact (take_some_suffix separated).trans (take_some_suffix taken)
  · cases known

theorem drop_modifier_suffix {cs rest : List Char} (found : dropModifier cs = some rest) :
    rest <:+ cs := by
  obtain ⟨⟨keyword, rest'⟩, taken, rfl⟩ := Option.map_eq_some_iff.mp found
  exact take_keyword_suffix taken

theorem drop_arguments_suffix (cs : List Char) : dropArguments cs <:+ cs := by
  unfold dropArguments
  split
  · rename_i rest
    split
    · rename_i after eq
      have inner : ')' :: after <:+ rest := eq ▸ List.dropWhile_suffix (· != ')')
      exact (List.suffix_cons _ _).trans (inner.trans (List.suffix_cons _ _))
    · exact List.suffix_rfl
  · exact List.suffix_rfl

theorem drop_attribute_suffix {cs rest : List Char} (found : dropAttribute cs = some rest) :
    rest <:+ cs := by
  unfold dropAttribute at found
  split at found
  · rename_i named
    simp only [Option.bind_eq_bind, Option.bind_eq_some_iff, Option.pure_def] at found
    obtain ⟨⟨name, more⟩, taken, ⟨blanks, last⟩, separated, eq⟩ := found
    cases eq
    have arguments := (take_some_suffix separated).trans (drop_arguments_suffix more)
    exact arguments.trans ((take_some_suffix taken).trans (List.suffix_cons _ _))
  · cases found

theorem repeated_suffix {drop : List Char → Option (List Char)}
    (drops : ∀ cs rest, drop cs = some rest → rest <:+ cs) (fuel : Nat) (cs : List Char) :
    repeated drop fuel cs <:+ cs := by
  induction fuel generalizing cs with
  | zero => exact List.suffix_rfl
  | succ fuel ih =>
    unfold repeated
    split
    · rename_i rest found
      exact (ih rest).trans (drops cs rest found)
    · exact List.suffix_rfl

theorem drop_all_suffix {drop : List Char → Option (List Char)}
    (drops : ∀ cs rest, drop cs = some rest → rest <:+ cs) (cs : List Char) :
    dropAll drop cs <:+ cs :=
  repeated_suffix drops cs.length cs

theorem small_type_name_points : smallTypeName.PointsAt Names := by
  intro cs found hit
  simp only [smallTypeName, findSmallType, Option.bind_eq_bind, Option.bind_eq_some_iff] at hit
  obtain ⟨⟨keyword, rest⟩, taken, named⟩ := hit
  split at named
  · rename_i small
    cases named
    have ending : rest <:+ cs := by
      have attributes :=
        drop_all_suffix (fun _ _ => drop_attribute_suffix) (cs.dropWhile isBlank)
      have modifiers :=
        drop_all_suffix (fun _ _ => drop_modifier_suffix)
          (dropAll dropAttribute (cs.dropWhile isBlank))
      exact (take_keyword_suffix taken).trans
        (modifiers.trans (attributes.trans (List.dropWhile_suffix isBlank)))
    refine ⟨offset cs rest, rfl, ?_⟩
    rw [drop_offset ending]
    refine ⟨fun none => ?_, rfl⟩
    rw [none] at small
    cases small
  · cases named

theorem final_blanks_suffix (cs : List Char) : finalBlanks cs <:+ cs := by
  rw [← List.reverse_prefix, finalBlanks, List.reverse_reverse]
  exact List.takeWhile_prefix _

theorem final_blanks_blank {cs : List Char} {c : Char} (member : c ∈ finalBlanks cs) :
    isSpaceOrTab c := by
  rw [finalBlanks, List.mem_reverse] at member
  exact List.all_eq_true.mp List.all_takeWhile c member

theorem without_final_newline_begins (cs : List Char) : withoutFinalNewline cs <+: cs := by
  unfold withoutFinalNewline
  split
  · exact List.dropLast_prefix cs
  · exact List.prefix_rfl

theorem without_final_newline_single {cs : List Char} (single : '\n' ∉ cs) :
    withoutFinalNewline cs = cs := if_neg fun last => single (List.mem_of_getLast? last)

theorem trailing_blanks_points :
    trailingBlanks.PointsAt fun _ place => ∃ blank, isSpaceOrTab blank ∧ [blank] <+: place := by
  intro cs found hit
  simp only [trailingBlanks, findTrailing] at hit
  split at hit
  · cases hit
  · rename_i some
    cases hit
    obtain ⟨blank, more, blanks⟩ := List.exists_cons_of_ne_nil (mt List.isEmpty_iff.mpr some)
    obtain ⟨tail, text⟩ := without_final_newline_begins cs
    let body := withoutFinalNewline cs
    let position := offset body (finalBlanks body)
    have place : cs.drop position = blank :: more ++ tail :=
      calc
        cs.drop position = (body ++ tail).drop position := by rw [text]
        _ = body.drop position ++ tail := List.drop_append_of_le_length (Nat.sub_le _ _)
        _ = blank :: more ++ tail := by rw [drop_offset (final_blanks_suffix body), blanks]
    exact ⟨position, rfl, blank, final_blanks_blank (blanks ▸ List.mem_cons_self),
      more ++ tail, place.symm⟩

theorem drop_while_begins {holds : Char → Bool} {cs rest : List Char} {c : Char}
    (eq : cs.dropWhile holds = c :: rest) : holds c = false := by
  have head := List.head?_dropWhile_not holds cs
  rw [eq] at head
  exact head

theorem space_before_tab_iff {line : Line} {hit : Hit} :
    spaceBeforeTab line = .ok (some hit) ↔
      '\t' ∈ line.indent.dropWhile (· != ' ') ∧
        hit = ⟨some ((line.indent.takeWhile (· != ' ')).length + 1), []⟩ := by
  simp only [spaceBeforeTab, span, Except.ok.injEq, Option.ite_none_right_eq_some, List.contains_iff_mem,
    Option.some.injEq]
  exact and_congr_right fun _ => eq_comm

theorem first_space {c : Char} {cs : List Char} (behind : c ∈ cs.dropWhile (· != ' ')) :
    ' ' ∉ cs.takeWhile (· != ' ') ∧ ∃ more, cs = cs.takeWhile (· != ' ') ++ ' ' :: more := by
  constructor
  · intro space
    have other := List.all_eq_true.mp List.all_takeWhile ' ' space
    cases other
  · obtain ⟨d, more, begins⟩ := List.exists_cons_of_ne_nil (List.ne_nil_of_mem behind)
    obtain rfl : d = ' ' := by simpa using drop_while_begins begins
    exact ⟨more, by rw [← begins, List.takeWhile_append_dropWhile]⟩

theorem space_before_tab_points {line : Line} {hit : Hit}
    (found : spaceBeforeTab line = .ok (some hit)) :
    ∃ position, hit.column = some (position + 1) ∧ [' '] <+: line.text.drop position := by
  obtain ⟨tab, rfl⟩ := space_before_tab_iff.mp found
  obtain ⟨-, more, indent⟩ := first_space tab
  obtain ⟨tail, text⟩ := List.takeWhile_prefix isSpaceOrTab (l := line.text)
  let front := line.indent.takeWhile (· != ' ')
  have whole : line.text = front ++ ' ' :: (more ++ tail) :=
    calc
      line.text = line.indent ++ tail := by rw [Line.indent, text]
      _ = front ++ ' ' :: (more ++ tail) := by rw [indent, List.append_assoc, List.cons_append]
  exact ⟨front.length, rfl, more ++ tail, by rw [whole, List.drop_left]; rfl⟩

end LineLint.Pattern
