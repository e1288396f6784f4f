import LineLint.Matcher.Named
import LineLint.Proofs.Line.FinalBlanks
import LineLint.Proofs.Matching.Searches

/- The patterns that look at a line as a whole or at its end, and the expressions that they are made
   from. -/
namespace LineLint
open LineLint.Text

namespace Expression

section
variable {e : Expression}

theorem search_past_start (c : Char) (front rest : List Char) :
    (seq lineStart e).searchFrom (c :: front) rest = none := by
  induction rest generalizing c front with
  | nil => rfl
  | cons d rest ih =>
    rw [searchFrom, ih]
    rfl

theorem follows_line_start {p : Pattern} (same : ∀ cs, p.find cs = e.foundAt [] cs) :
    p.Follows (seq lineStart e) := by
  intro cs
  have here : (seq lineStart e).run finish ⟨[], cs, []⟩ = e.run finish ⟨[], cs, []⟩ := rfl
  rw [same, search]
  cases cs with
  | nil =>
    rw [searchFrom, here, Option.map_map]
    rfl
  | cons c cs =>
    rw [searchFrom, here, search_past_start, Option.or_none, Option.map_map]
    rfl

end

def inLine (c : Char) : Bool := c != '\n'

theorem line_end_iff {rest : List Char} : isLineEnd rest = true ↔ rest = [] ∨ rest = ['\n'] := by
  rw [isLineEnd, Bool.or_eq_true, beq_iff_eq, beq_iff_eq]

theorem line_end_stops {holds : Char → Bool} (outside : holds '\n' = false) {rest : List Char}
    (ends : isLineEnd rest = true) : Stops holds rest := by
  rcases line_end_iff.mp ends with rfl | rfl
  · rfl
  · exact outside

theorem begins_no_line_end {holds : Char → Bool} (apart : ∀ c, holds c = true → inLine c = true)
    {rest : List Char} (begins : Begins holds rest) : isLineEnd rest = false := by
  cases rest with
  | nil => cases begins
  | cons c rest =>
    have other : c ≠ '\n' := bne_iff_ne.mp (apart c begins)
    simp [isLineEnd, other]

theorem line_end_steps :
    lineEnd.Steps (fun s => if isLineEnd s.rest then some s else none) Free :=
  place_steps fun _ rest => isLineEnd rest

theorem without_final_newline_append {cs ending : List Char} (ends : isLineEnd ending = true)
    (other : ending = [] → cs.getLast? ≠ some '\n') : withoutFinalNewline (cs ++ ending) = cs := by
  rcases line_end_iff.mp ends with rfl | rfl
  · rw [List.append_nil, withoutFinalNewline, if_neg (other rfl)]
  · rw [withoutFinalNewline, List.getLast?_concat, if_pos rfl, List.dropLast_concat]

theorem without_final_newline_cut (cs : List Char) :
    ∃ ending, isLineEnd ending = true ∧ withoutFinalNewline cs ++ ending = cs := by
  rw [withoutFinalNewline]
  split
  · rename_i last
    exact ⟨['\n'], rfl, List.dropLast_append_getLast? _ last⟩
  · exact ⟨[], rfl, List.append_nil cs⟩

theorem take_in_line (cs : List Char) : '\n' ∉ cs.takeWhile inLine := by
  intro feed
  have inside := List.all_eq_true.mp List.all_takeWhile '\n' feed
  cases inside

theorem single_line_eq {cs : List Char} (ends : isLineEnd (cs.dropWhile inLine) = true) :
    withoutFinalNewline cs = cs.takeWhile inLine := by
  have cut := without_final_newline_append ends fun _ last =>
    take_in_line cs (List.mem_of_getLast? last)
  rwa [List.takeWhile_append_dropWhile] at cut

theorem drop_while_past {holds : Char → Bool} {cs : List Char} {n : Nat}
    (enough : n ≤ (cs.takeWhile holds).length) :
    (cs.drop n).dropWhile holds = cs.dropWhile holds := by
  have cut := List.takeWhile_append_dropWhile (p := holds) (l := cs)
  have inside : ∀ c ∈ (cs.takeWhile holds).drop n, holds c = true := fun c member =>
    List.all_eq_true.mp List.all_takeWhile c (List.mem_of_mem_drop member)
  calc
    (cs.drop n).dropWhile holds
      = ((cs.takeWhile holds).drop n ++ cs.dropWhile holds).dropWhile holds := by
        rw [← List.drop_append_of_le_length enough, cut]
    _ = cs.dropWhile holds := drop_while_append inside (drop_while_stops holds cs)

theorem single_line_iff (cs : List Char) :
    isLineEnd (cs.dropWhile inLine) = true ↔ '\n' ∉ withoutFinalNewline cs := by
  constructor
  · intro ends
    rw [single_line_eq ends]
    exact take_in_line cs
  · intro single
    obtain ⟨ending, ends, whole⟩ := without_final_newline_cut cs
    have letters : ∀ c ∈ withoutFinalNewline cs, inLine c = true := by
      intro c member
      rw [inLine, bne_iff_ne]
      rintro rfl
      exact single member
    rw [← whole, drop_while_append letters (line_end_stops rfl ends)]
    exact ends

end Expression

namespace Pattern
open Expression

/-- The expression `^.{21,}$`. -/
def longExpression : Expression := chain [lineStart, times 21 (one inLine), manyOf inLine, lineEnd]

theorem long_follows : long.Follows longExpression := by
  have tail := seq_steps (many_of_drops inLine).steps line_end_steps fun t barred => by
    rw [begins_no_line_end (fun _ => id) barred]
    rfl
  have steps := seq_steps (times_drops inLine 21).steps tail fun _ barred => barred.elim
  refine follows_line_start fun cs => ?_
  refine Eq.trans ?_ (found_at_nameless steps rfl [] cs).symm
  show findLong cs = _
  have feed : (withoutFinalNewline cs).contains '\n' = !isLineEnd (cs.dropWhile inLine) := by
    rw [Bool.eq_iff_iff, Bool.not_eq_true', Bool.eq_false_iff, Ne, single_line_iff, not_not,
      List.contains_iff_mem]
  simp only [findLong, feed]
  by_cases enough : 21 ≤ (cs.takeWhile inLine).length
  · rw [dropping_some (if_pos enough), Option.bind_some, dropping_many, Option.bind_some]
    have past : (Cursor.to ⟨[], cs, []⟩ (cs.drop 21)).rest.dropWhile inLine = cs.dropWhile inLine :=
      drop_while_past enough
    dsimp only
    rw [past]
    cases ends : isLineEnd (cs.dropWhile inLine) with
    | false => rfl
    | true =>
      rw [single_line_eq ends]
      simp [Nat.not_lt.mpr enough]
  · rw [dropping_none (if_neg enough)]
    cases ends : isLineEnd (cs.dropWhile inLine) with
    | false => rfl
    | true =>
      rw [single_line_eq ends]
      simp [Nat.lt_of_not_le enough]

def comment : Expression := chain [char '/', char '/', manyOf inLine]

/-- The expression `^\s*(?P<at>\{)\s*(?://.*)?$`. -/
def loneBraceExpression : Expression :=
  chain [lineStart, manyOf isBlank, group "at" (char '\x7b'), manyOf isBlank, optional comment, lineEnd]

def dropComment (cs : List Char) : Option (List Char) :=
  (dropOne (· == '/') cs).bind fun rest =>
    (dropOne (· == '/') rest).map fun text => text.dropWhile inLine

theorem comment_drops : comment.Drops dropComment (Begins inLine) := by
  have drops := seq_drops (one_drops (· == '/'))
    (seq_drops (one_drops (· == '/')) (many_of_drops inLine) fun _ barred => barred.elim)
    fun _ barred => barred.elim
  refine drops_congr drops fun cs => ?_
  rw [dropComment]
  congr 1
  funext rest
  exact Option.map_eq_bind.symm

theorem comment_begins {cs : List Char} (dropped : (dropComment cs).isSome = true) :
    Begins inLine cs := by
  obtain ⟨rest, eq⟩ := Option.isSome_iff_exists.mp dropped
  obtain ⟨_, first, _⟩ := Option.bind_eq_some_iff.mp eq
  obtain ⟨c, slash, rfl⟩ := drop_one_iff.mp first
  rw [beq_iff_eq.mp slash]
  rfl

def endsLine (rest : List Char) : Bool := isLineEnd ((dropComment rest).getD rest)

theorem ends_line_steps :
    (chain [optional comment, lineEnd]).Steps
      (fun s => (s.dropping fun cs => (dropComment cs).or (some cs)).bind fun t =>
        if isLineEnd t.rest then some t else none) Free :=
  seq_steps (optional_drops comment_drops).steps line_end_steps fun t barred => by
    have begins : Begins inLine t.rest := barred.elim id comment_begins
    rw [begins_no_line_end (fun _ => id) begins]
    rfl

theorem ends_line_run (s : Cursor) :
    (chain [optional comment, lineEnd]).run finish s =
      if endsLine s.rest then some s.captures else none := by
  rw [run_steps ends_line_steps, endsLine, Cursor.dropping]
  cases dropComment s.rest with
  | none =>
    rw [Option.none_or, Option.map_some, Option.bind_some, to_rest, Option.getD_none]
    split
    · rfl
    · rfl
  | some rest =>
    rw [Option.some_or, Option.map_some, Option.bind_some, Option.getD_some]
    show Option.map Cursor.captures (if isLineEnd rest then _ else none) = _
    split
    · rfl
    · rfl

theorem blank_no_comment {rest : List Char} (begins : Begins isBlank rest) :
    dropComment rest = none := by
  have stops : Stops (· == '/') rest := begins_class_stops rfl begins
  rw [dropComment, drop_one_none stops, Option.bind_none]

theorem line_rest_ends {rest : List Char} (stops : Stops isBlank rest) :
    endsLine rest = isLineRest rest := by
  unfold isLineRest
  split
  · rfl
  · rename_i text
    have ending : endsLine ('/' :: '/' :: text) = isLineEnd (text.dropWhile inLine) := rfl
    rw [ending, Bool.eq_iff_iff, single_line_iff, Bool.not_eq_true', Bool.eq_false_iff, Ne,
      List.contains_iff_mem]
  · rename_i some noComment
    have missed : dropComment rest = none := by
      rw [Option.eq_none_iff_forall_ne_some]
      intro after dropped
      obtain ⟨tail, first, second⟩ := Option.bind_eq_some_iff.mp dropped
      obtain ⟨text, next, _⟩ := Option.map_eq_some_iff.mp second
      rw [drop_char_iff.mp next] at first
      exact noComment text (drop_char_iff.mp first)
    rw [endsLine, missed, Option.getD_none, isLineEnd, Bool.or_eq_false_iff, beq_eq_false_iff_ne,
      beq_eq_false_iff_ne]
    refine ⟨some, ?_⟩
    rintro rfl
    cases stops

theorem ends_line_blanks {rest : List Char} (begins : Begins isBlank rest)
    (open_ : endsLine (rest.dropWhile isBlank) = false) : endsLine rest = false := by
  rw [endsLine, blank_no_comment begins, Option.getD_none, Bool.eq_false_iff, Ne, line_end_iff]
  rintro (rfl | rfl)
  · cases begins
  · cases open_

theorem line_rest_run (s : Cursor) :
    (chain [manyOf isBlank, optional comment, lineEnd]).run finish s =
      if isLineRest (s.rest.dropWhile isBlank) then some s.captures else none := by
  show (manyOf isBlank).run ((chain [optional comment, lineEnd]).run finish)
    ⟨s.front, s.rest, s.captures⟩ = _
  rw [many_of_greedy fun t begins missed => ?_]
  · rw [ends_line_run, line_rest_ends (drop_while_stops isBlank s.rest)]
  · rw [ends_line_run] at missed ⊢
    have open_ : endsLine (t.rest.dropWhile isBlank) = false := by
      rw [Bool.eq_false_iff]
      intro ends
      rw [if_pos ends] at missed
      cases missed
    rw [ends_line_blanks begins open_]
    rfl

theorem lone_brace_eq (cs : List Char) :
    findLoneBrace cs = (dropOne (· == '\x7b') (cs.dropWhile isBlank)).bind fun after =>
      if isLineRest (after.dropWhile isBlank) then
        some ⟨0, .part (some (cs.takeWhile isBlank).length), []⟩
      else none := by
  simp only [findLoneBrace, span]
  split
  · rename_i before after eq
    obtain ⟨rfl, brace⟩ := Prod.mk.inj eq
    rw [brace]
    rfl
  · rename_i other
    rw [drop_char_none fun after eq => other (cs.takeWhile isBlank) after (by rw [eq])]
    rfl

theorem lone_brace_follows : loneBrace.Follows loneBraceExpression := by
  refine follows_line_start fun cs => ?_
  let rest := chain [manyOf isBlank, optional comment, lineEnd]
  have brace (s : Cursor) : (seq (group "at" (char '\x7b')) rest).run finish s =
      ((s.dropping (dropOne (· == '\x7b'))).map (Cursor.capture "at" s)).bind (rest.run finish) :=
    group_steps "at" (one_drops (· == '\x7b')).steps (rest.run finish) s
      (.inl fun _ barred => barred.elim)
  have settles : Settles ((seq (group "at" (char '\x7b')) rest).run finish) (Begins isBlank) := by
    refine .inl fun t begins => ?_
    have stops : Stops (· == '\x7b') t.rest := begins_class_stops rfl begins
    rw [brace, dropping_none (drop_one_none stops)]
    rfl
  have whole := (many_of_drops isBlank).steps _ ⟨[], cs, []⟩ settles
  rw [dropping_many, Option.bind_some, brace] at whole
  show findLoneBrace cs = _
  refine Eq.trans ?_ (congrArg (Option.map _) whole.symm)
  rw [lone_brace_eq]
  cases found : dropOne (· == '\x7b') (cs.dropWhile isBlank) with
  | none =>
    rw [dropping_none found]
    rfl
  | some after =>
    rw [dropping_some found, drop_char_iff.mp found, to_tail, Option.map_some, captured_one,
      Option.bind_some, Option.bind_some, line_rest_run]
    dsimp only
    split
    · rw [List.append_nil, List.length_reverse]
      rfl
    · rfl

/-- The expression `(?P<at>[ \t]+)$`. -/
def trailingExpression : Expression := chain [group "at" (someOf isSpaceOrTab), lineEnd]

def blanksToEnd (cs : List Char) : Option Unit :=
  (takeSome isSpaceOrTab cs).bind fun (_, rest) => if isLineEnd rest then some () else none

theorem blanks_to_end_iff {cs : List Char} :
    blanksToEnd cs = some () ↔
      ∃ blanks ending, cs = blanks ++ ending ∧ SomeOf isSpaceOrTab blanks ∧
        isLineEnd ending = true := by
  simp only [blanksToEnd, Option.bind_eq_some_iff, Option.ite_none_right_eq_some, Prod.exists,
    take_some_iff, and_true]
  constructor
  · rintro ⟨blanks, ending, ⟨rfl, run⟩, ends⟩
    exact ⟨blanks, ending, rfl, run.toSomeOf, ends⟩
  · rintro ⟨blanks, ending, rfl, some, ends⟩
    exact ⟨blanks, ending, ⟨rfl, some, line_end_stops rfl ends⟩, ends⟩

theorem cut_before_end {front rest : List Char} (accepted : blanksToEnd rest = some ()) :
    finalBlanks (withoutFinalNewline (front ++ rest)) ≠ [] ∧
      (trimmed (withoutFinalNewline (front ++ rest))).length ≤ front.length := by
  obtain ⟨blanks, ending, rfl, run, ends⟩ := blanks_to_end_iff.mp accepted
  obtain ⟨c, last⟩ := Option.ne_none_iff_exists'.mp (mt List.getLast?_eq_none_iff.mp run.some)
  have space := run.all c (List.mem_of_getLast? last)
  have whole : (front ++ blanks).getLast? = some c := by
    rw [List.getLast?_append, last, Option.some_or]
  have body : withoutFinalNewline (front ++ (blanks ++ ending)) = front ++ blanks := by
    rw [← List.append_assoc]
    apply without_final_newline_append ends
    rintro - feed
    rw [whole] at feed
    cases feed
    cases space
  rw [body]
  constructor
  · intro noBlanks
    have missed := List.rtakeWhile_eq_nil_iff.mp noBlanks (by simp [run.some])
    rw [List.getLast?_eq_some_getLast (by simp [run.some])] at whole
    rw [Option.some.inj whole] at missed
    exact missed space
  · have past : (blanks.reverse ++ front.reverse).dropWhile isSpaceOrTab =
        front.reverse.dropWhile isSpaceOrTab :=
      List.dropWhile_append_of_pos fun c member => run.all c (List.mem_reverse.mp member)
    rw [trimmed, List.rdropWhile, List.reverse_append, past, List.length_reverse]
    have shorter := (List.dropWhile_suffix (l := front.reverse) isSpaceOrTab).length_le
    rwa [List.length_reverse] at shorter

theorem find_trailing_leftmost (cs : List Char) :
    findTrailing cs = (leftmost (fun _ rest => blanksToEnd rest) none cs).map fun (n, _) =>
      ⟨n, .part (some n), []⟩ := by
  obtain ⟨ending, ends, whole⟩ := without_final_newline_cut cs
  have parts : trimmed (withoutFinalNewline cs) ++ finalBlanks (withoutFinalNewline cs) =
      withoutFinalNewline cs := List.rdropWhile_append_rtakeWhile
  by_cases noBlanks : finalBlanks (withoutFinalNewline cs) = []
  · have missed : leftmost (fun _ rest => blanksToEnd rest) none cs = none := by
      rw [leftmost_eq_none_iff]
      rintro front rest rfl
      rw [Option.eq_none_iff_forall_ne_some]
      intro _ accepted
      exact (cut_before_end accepted).1 noBlanks
    simp only [findTrailing, noBlanks, List.isEmpty_nil, if_true, missed, Option.map_none]
  · have found : leftmost (fun _ rest => blanksToEnd rest) none cs =
        some ((trimmed (withoutFinalNewline cs)).length, ()) := by
      refine leftmost_eq_some_iff.mpr ⟨trimmed (withoutFinalNewline cs),
        finalBlanks (withoutFinalNewline cs) ++ ending, ?_, rfl, ?_, ?_⟩
      · rw [← List.append_assoc, parts, whole]
      · refine blanks_to_end_iff.mpr ⟨_, _, rfl, ⟨noBlanks, fun c => final_blanks_blank⟩, ends⟩
      · rintro front rest rfl shorter
        rw [Option.eq_none_iff_forall_ne_some]
        intro _ accepted
        exact absurd (cut_before_end accepted).2 (Nat.not_le_of_lt shorter)
    have place : (withoutFinalNewline cs).length - (finalBlanks (withoutFinalNewline cs)).length =
        (trimmed (withoutFinalNewline cs)).length := by
      have := congrArg List.length parts
      rw [List.length_append] at this
      omega
    have blanks : (finalBlanks (withoutFinalNewline cs)).isEmpty = false :=
      List.isEmpty_eq_false_iff.mpr noBlanks
    simp only [findTrailing, blanks, Bool.false_eq_true, if_false, found, Option.map_some, place]

theorem trailing_blanks_follows : trailingBlanks.Follows trailingExpression := by
  have steps := seq_steps (group_steps "at" (some_of_drops isSpaceOrTab).steps) line_end_steps
    fun t barred => by
      have inside : ∀ c, isSpaceOrTab c = true → inLine c = true := by
        intro c space
        rw [inLine, bne_iff_ne]
        rintro rfl
        cases space
      rw [begins_no_line_end inside barred]
      rfl
  refine follows_leftmost find_trailing_leftmost fun front rest => ?_
  refine (found_at_steps steps front rest).trans ?_
  rw [named_some, blanksToEnd]
  cases takeSome isSpaceOrTab rest with
  | none => rfl
  | some run =>
    obtain ⟨blanks, ending⟩ := run
    dsimp only [Option.map_some, Option.bind_some]
    split
    · rfl
    · rfl

end Pattern

end LineLint
