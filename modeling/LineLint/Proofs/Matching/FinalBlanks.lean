import LineLint.Proofs.Line.FinalBlanks
import LineLint.Proofs.Matching.Declarations
import LineLint.Proofs.Matching.Places
import LineLint.Proofs.Masking.FinalBlanks
import LineLint.Proofs.Matching.TypeNames
import LineLint.Proofs.Scan.LoneBrace

/- Patterns that find the same in a line that goes on with spaces and tabs. What they look for ends in
   another character, so that it stands in the line itself; and nothing that has to follow it is asked of
   spaces and tabs alone. -/
namespace LineLint
open LineLint.Text

section
variable {α β Occurrence Occurrence' : Type} {accepts : Option Char → List Char → Option α}
  {cs cs' : List Char} {front rest : Occurrence → List Char} {value : Occurrence → α}
  {front' rest' : Occurrence' → List Char} {value' : Occurrence' → α}

theorem leftmost_report_iff (recognises : Recognises accepts cs front rest value)
    {report : Nat × α → β} {b : β} :
    (leftmost accepts none cs).map report = some b ↔
      ∃ o, (∀ other, (front o).length ≤ (front other).length) ∧
        report ((front o).length, value o) = b := by
  rw [Option.map_eq_some_iff]
  constructor
  · rintro ⟨⟨n, a⟩, found, rfl⟩
    obtain ⟨o, least, rfl, rfl⟩ := (leftmost_recognised_iff recognises).mp found
    exact ⟨o, least, rfl⟩
  · rintro ⟨o, least, rfl⟩
    exact ⟨_, (leftmost_recognised_iff recognises).mpr ⟨o, least, rfl, rfl⟩, rfl⟩

def Mirrored (report : Nat × α → β) (front : Occurrence → List Char) (value : Occurrence → α)
    (front' : Occurrence' → List Char) (value' : Occurrence' → α) : Prop :=
  ∀ o, ∃ o', front' o' = front o ∧
    report ((front o).length, value' o') = report ((front o).length, value o)

theorem least_mirrored {report : Nat × α → β} (there : Mirrored report front value front' value')
    (back : Mirrored report front' value' front value) {b : β}
    (found : ∃ o, (∀ other, (front o).length ≤ (front other).length) ∧
      report ((front o).length, value o) = b) :
    ∃ o', (∀ other, (front' o').length ≤ (front' other).length) ∧
      report ((front' o').length, value' o') = b := by
  obtain ⟨o, least, rfl⟩ := found
  obtain ⟨o', place, same⟩ := there o
  refine ⟨o', fun other' => ?_, by rw [place, same]⟩
  obtain ⟨other, place', _⟩ := back other'
  rw [place, ← place']
  exact least other

theorem leftmost_mirrored (recognises : Recognises accepts cs front rest value)
    (recognises' : Recognises accepts cs' front' rest' value') {report : Nat × α → β}
    (there : Mirrored report front value front' value')
    (back : Mirrored report front' value' front value) :
    (leftmost accepts none cs).map report = (leftmost accepts none cs').map report := by
  apply Option.ext
  intro b
  rw [leftmost_report_iff recognises, leftmost_report_iff recognises']
  exact ⟨least_mirrored there back, least_mirrored back there⟩

end

structure CharacterIn (sought : Char) (cs : List Char) where
  front : List Char
  rest : List Char
  whole : front ++ sought :: rest = cs

theorem character_recognised (sought : Char) (cs : List Char) :
    Recognises (fun _ rest => if rest.head? = some sought then some () else none) cs
      (fun o : CharacterIn sought cs => o.front) (fun o => sought :: o.rest) fun _ => () where
  whole o := o.whole
  accepted o := if_pos rfl
  listed before after a whole accepted := by
    split at accepted
    · rename_i head
      obtain ⟨rest, rfl⟩ := List.head?_eq_some_iff.mp head
      exact ⟨⟨before, rest, whole⟩, rfl⟩
    · cases accepted

def Pattern.IgnoresFinalBlanks (p : Pattern) : Prop :=
  ∀ cs tail, '\n' ∉ cs → SpacesAndTabs tail → p.find (cs ++ tail) = p.find cs

section
variable {cs tail : List Char}

theorem tail_stops_words (blank : SpacesAndTabs tail) {rest : List Char}
    (stops : Stops isWord rest) : Stops isWord (rest ++ tail) := by
  cases rest with
  | cons c rest => exact stops
  | nil =>
    cases tail with
    | nil => exact stops
    | cons c tail =>
      have space := blank c List.mem_cons_self
      exact blank_not_word (space_or_tab_blank space)

theorem run_longer {name rest : List Char} (blank : SpacesAndTabs tail)
    (run : IsRun isWord name rest) : IsRun isWord name (rest ++ tail) :=
  ⟨run.toSomeOf, tail_stops_words blank run.stops⟩

theorem run_shorter {name rest : List Char} (run : IsRun isWord name (rest ++ tail)) :
    IsRun isWord name rest := by
  refine ⟨run.toSomeOf, ?_⟩
  cases rest with
  | nil => rfl
  | cons c rest => exact run.stops

theorem word_last {word : List Char} (letters : SomeOf isWord word) (front : List Char) :
    ∃ c, (front ++ word).getLast? = some c ∧ isSpaceOrTab c = false := by
  obtain ⟨c, last⟩ := Option.ne_none_iff_exists'.mp (mt List.getLast?_eq_none_iff.mp letters.some)
  refine ⟨c, by rw [List.getLast?_append, last, Option.some_or], ?_⟩
  rw [Bool.eq_false_iff]
  intro space
  have letter := letters.all c (List.mem_of_getLast? last)
  rw [blank_not_word (space_or_tab_blank space)] at letter
  cases letter

theorem binding_longer (blank : SpacesAndTabs tail) (b : Binding cs) :
    ∃ b' : Binding (cs ++ tail), b'.front = b.front ∧ b'.binder = b.binder ∧ b'.gap = b.gap ∧
      b'.name = b.name ∧ b'.rest = b.rest ++ tail := by
  have whole : b.front ++ (b.binder ++ (b.gap ++ (b.name ++ (b.rest ++ tail)))) = cs ++ tail := by
    simpa only [List.append_assoc] using congrArg (· ++ tail) b.whole
  exact ⟨⟨b.front, b.binder, b.gap, b.name, b.rest ++ tail, whole, b.separate, b.binds, b.spaced,
    run_longer blank b.named⟩, rfl, rfl, rfl, rfl, rfl⟩

theorem binding_shorter (blank : SpacesAndTabs tail) (b' : Binding (cs ++ tail)) :
    ∃ b : Binding cs, b'.front = b.front ∧ b'.binder = b.binder ∧ b'.gap = b.gap ∧
      b'.name = b.name ∧ b'.rest = b.rest ++ tail := by
  obtain ⟨front, binder, gap, name, rest, whole, separate, binds, spaced, named⟩ := b'
  obtain ⟨c, last, other⟩ := word_last named.toSomeOf (front ++ (binder ++ gap))
  have cut : (front ++ (binder ++ gap) ++ name) ++ rest = cs ++ tail := by
    simpa only [List.append_assoc] using whole
  obtain ⟨more, rfl, eq⟩ := cut_before_blanks blank cut last other
  have whole' : front ++ (binder ++ (gap ++ (name ++ more))) = cs := by
    simpa only [List.append_assoc] using eq
  exact ⟨⟨front, binder, gap, name, more, whole', separate, binds, spaced, run_shorter named⟩,
    rfl, rfl, rfl, rfl, rfl⟩

theorem hungarian_longer (blank : SpacesAndTabs tail) (h : HungarianName cs) :
    ∃ h' : HungarianName (cs ++ tail), h'.front = h.front ∧ h'.binder = h.binder ∧
      h'.gap = h.gap ∧ h'.name = h.name := by
  obtain ⟨b, front, binder, gap, name, _⟩ := binding_longer blank h.toBinding
  exact ⟨⟨b, name ▸ h.initials⟩, front, binder, gap, name⟩

theorem hungarian_shorter (blank : SpacesAndTabs tail) (h' : HungarianName (cs ++ tail)) :
    ∃ h : HungarianName cs, h.front = h'.front ∧ h.binder = h'.binder ∧ h.gap = h'.gap ∧
      h.name = h'.name := by
  obtain ⟨b, front, binder, gap, name, _⟩ := binding_shorter blank h'.toBinding
  exact ⟨⟨b, name ▸ h'.initials⟩, front.symm, binder.symm, gap.symm, name.symm⟩

theorem head_not_blank_append (blank : SpacesAndTabs tail) (after : List Char) :
    (after ++ tail).head?.any (fun c => !isBlank c) = after.head?.any fun c => !isBlank c := by
  cases after with
  | cons c after => rfl
  | nil =>
    cases tail with
    | nil => rfl
    | cons c tail =>
      have space := space_or_tab_blank (blank c List.mem_cons_self)
      show (!isBlank c) = false
      rw [space]
      rfl

theorem colon_longer (blank : SpacesAndTabs tail) (c : MisplacedColon cs) :
    ∃ c' : MisplacedColon (cs ++ tail), c'.front = c.front ∧ c'.binder = c.binder ∧
      c'.gap = c.gap ∧ c'.name = c.name ∧ c'.blanks = c.blanks := by
  obtain ⟨b, front, binder, gap, name, rest⟩ := binding_longer blank c.toBinding
  have colon : b.rest = c.blanks ++ ':' :: (c.after ++ tail) := by
    rw [rest, c.colon, List.append_assoc, List.cons_append]
  have misplaced : (b.lead ++ (b.name ++ c.blanks)).getLast?.any isBlank = true ∨
      (c.after ++ tail).head?.any (fun d => !isBlank d) = true := by
    rw [head_not_blank_append blank, Binding.lead, front, binder, gap, name]
    exact c.misplaced
  exact ⟨⟨b, c.blanks, c.after ++ tail, colon, c.allBlank, misplaced⟩, front, binder, gap, name, rfl⟩

theorem colon_shorter (blank : SpacesAndTabs tail) (c' : MisplacedColon (cs ++ tail)) :
    ∃ c : MisplacedColon cs, c.front = c'.front ∧ c.binder = c'.binder ∧ c.gap = c'.gap ∧
      c.name = c'.name ∧ c.blanks = c'.blanks := by
  obtain ⟨b, front, binder, gap, name, rest⟩ := binding_shorter blank c'.toBinding
  have whole : (c'.blanks ++ [':']) ++ c'.after = b.rest ++ tail := by
    rw [← rest, c'.colon, List.append_assoc, List.singleton_append]
  obtain ⟨after, eq, cut⟩ := cut_before_blanks blank whole (List.getLast?_concat ..) rfl
  have colon : b.rest = c'.blanks ++ ':' :: after := by
    rw [← cut, List.append_assoc, List.singleton_append]
  have misplaced : (b.lead ++ (b.name ++ c'.blanks)).getLast?.any isBlank = true ∨
      after.head?.any (fun d => !isBlank d) = true := by
    rw [← head_not_blank_append blank, ← eq, Binding.lead, ← front, ← binder, ← gap, ← name]
    exact c'.misplaced
  exact ⟨⟨b, c'.blanks, after, colon, c'.allBlank, misplaced⟩, front.symm, binder.symm, gap.symm,
    name.symm, rfl⟩

theorem small_type_longer (blank : SpacesAndTabs tail) (d : SmallType cs) :
    ∃ d' : SmallType (cs ++ tail), d'.found = d.found := by
  have whole : d.indent ++ (d.attributes.flatMap Attribute.text ++
      (d.modifiers.flatMap Keyword.text ++ (d.keyword.text ++ (d.tail ++ tail)))) = cs ++ tail := by
    simpa only [List.append_assoc] using congrArg (· ++ tail) d.whole
  have cut : d.tail ++ tail = d.name ++ (d.rest ++ tail) := by
    rw [d.cut, List.append_assoc]
  exact ⟨⟨⟨d.indent, d.attributes, d.modifiers, d.keyword, d.tail ++ tail, d.indented, whole⟩,
    d.name, d.rest ++ tail, cut, run_longer blank d.named, d.small, d.noMember⟩, rfl⟩

theorem small_type_shorter (blank : SpacesAndTabs tail) (d' : SmallType (cs ++ tail)) :
    ∃ d : SmallType cs, d.found = d'.found := by
  obtain ⟨c, last, other⟩ := word_last d'.named.toSomeOf d'.lead
  have whole : (d'.lead ++ d'.name) ++ d'.rest = cs ++ tail := by
    rw [List.append_assoc, ← d'.cut, d'.lead_tail]
  obtain ⟨more, eq, cut⟩ := cut_before_blanks blank whole last other
  have whole' : d'.indent ++ (d'.attributes.flatMap Attribute.text ++
      (d'.modifiers.flatMap Keyword.text ++ (d'.keyword.text ++ (d'.name ++ more)))) = cs := by
    simpa only [TypeHeader.lead, List.append_assoc] using cut
  exact ⟨⟨⟨d'.indent, d'.attributes, d'.modifiers, d'.keyword, d'.name ++ more, d'.indented, whole'⟩,
    d'.name, more, rfl, run_shorter (eq ▸ d'.named), d'.small, d'.noMember⟩, rfl⟩

theorem line_rest_longer (blank : SpacesAndTabs tail) {rest : List Char} (ends : LineRest rest) :
    LineRest (rest ++ tail) := by
  induction ends with
  | nothing =>
    have blanks : Blank tail := fun c member => space_or_tab_blank (blank c member)
    have whole := (line_rest_append blanks).mpr LineRest.nothing
    rwa [List.append_nil] at whole
  | comment text => exact .comment (text ++ tail)
  | blank space _ ih => exact .blank space ih

theorem line_rest_shorter (blank : SpacesAndTabs tail) {rest : List Char}
    (ends : LineRest (rest ++ tail)) : LineRest rest := by
  induction rest with
  | nil => exact .nothing
  | cons c rest ih =>
    generalize whole : (c :: rest) ++ tail = text at ends
    cases ends with
    | nothing => cases whole
    | comment more =>
      have begins : ['/', '/'] <+: (c :: rest) ++ tail := ⟨more, whole.symm⟩
      obtain ⟨others, eq⟩ := Masker.begins_before_blanks (by simp [isSpaceOrTab]) blank begins
      rw [← eq]
      exact .comment others
    | blank space later =>
      obtain ⟨rfl, rfl⟩ := List.cons.inj whole
      exact .blank space (ih later)

end

namespace Pattern

theorem character_ignores {sought : Char} (visible : isSpaceOrTab sought = false)
    (subject : Subject) : (character subject sought).IgnoresFinalBlanks := by
  intro cs tail _ blank
  apply leftmost_mirrored (character_recognised sought (cs ++ tail))
    (character_recognised sought cs)
  · intro o'
    have whole : (o'.front ++ [sought]) ++ o'.rest = cs ++ tail := by
      rw [List.append_assoc, List.singleton_append, o'.whole]
    obtain ⟨more, _, cut⟩ := cut_before_blanks blank whole (List.getLast?_concat ..) visible
    rw [List.append_assoc, List.singleton_append] at cut
    exact ⟨⟨o'.front, more, cut⟩, rfl, rfl⟩
  · intro o
    have whole : o.front ++ sought :: (o.rest ++ tail) = cs ++ tail := by
      simpa only [List.append_assoc, List.cons_append] using congrArg (· ++ tail) o.whole
    exact ⟨⟨o.front, o.rest ++ tail, whole⟩, rfl, rfl⟩

theorem word_ignores {sought : String} {c : Char} (last : sought.toList.getLast? = some c)
    (visible : isSpaceOrTab c = false) : (word sought).IgnoresFinalBlanks := by
  intro cs tail _ blank
  apply leftmost_mirrored (word_recognised sought.toList (cs ++ tail))
    (word_recognised sought.toList cs)
  · intro w'
    have whole : (w'.front ++ sought.toList) ++ w'.rest = cs ++ tail := by
      rw [List.append_assoc, w'.whole]
    have ends : (w'.front ++ sought.toList).getLast? = some c := by
      rw [List.getLast?_append, last, Option.some_or]
    obtain ⟨more, _, cut⟩ := cut_before_blanks blank whole ends visible
    rw [List.append_assoc] at cut
    exact ⟨⟨w'.front, more, cut, w'.separate⟩, rfl, rfl⟩
  · intro w
    have whole : w.front ++ (sought.toList ++ (w.rest ++ tail)) = cs ++ tail := by
      simpa only [List.append_assoc] using congrArg (· ++ tail) w.whole
    exact ⟨⟨w.front, w.rest ++ tail, whole, w.separate⟩, rfl, rfl⟩

theorem hungarian_ignores : hungarian.IgnoresFinalBlanks := by
  intro cs tail _ blank
  apply leftmost_mirrored (hungarian_recognised (cs ++ tail)) (hungarian_recognised cs)
  · intro h'
    obtain ⟨h, front, binder, gap, name⟩ := hungarian_shorter blank h'
    exact ⟨h, front, by simp only [binder, gap, name]⟩
  · intro h
    obtain ⟨h', front, binder, gap, name⟩ := hungarian_longer blank h
    exact ⟨h', front, by simp only [binder, gap, name]⟩

theorem misplaced_colon_ignores : misplacedColon.IgnoresFinalBlanks := by
  intro cs tail _ blank
  apply leftmost_mirrored (colon_recognised (cs ++ tail)) (colon_recognised cs)
  · intro c'
    obtain ⟨c, front, binder, gap, name, blanks⟩ := colon_shorter blank c'
    exact ⟨c, front, by simp only [binder, gap, name, blanks]⟩
  · intro c
    obtain ⟨c', front, binder, gap, name, blanks⟩ := colon_longer blank c
    exact ⟨c', front, by simp only [binder, gap, name, blanks]⟩

theorem small_type_name_ignores : smallTypeName.IgnoresFinalBlanks := by
  intro cs tail _ blank
  apply Option.ext
  intro found
  constructor
  · intro hit
    obtain ⟨d', rfl⟩ := small_type_exists hit
    obtain ⟨d, same⟩ := small_type_shorter blank d'
    rw [← same]
    exact small_type_found d
  · intro hit
    obtain ⟨d, rfl⟩ := small_type_exists hit
    obtain ⟨d', same⟩ := small_type_longer blank d
    rw [← same]
    exact small_type_found d'

theorem line_rest_accepted {rest : List Char} (single : '\n' ∉ rest) (ends : LineRest rest) :
    isLineRest (rest.dropWhile isBlank) = true := by
  induction ends with
  | nothing => rfl
  | comment text =>
    simp only [List.mem_cons, not_or] at single
    have none : '\n' ∉ withoutFinalNewline text := fun member =>
      single.2.2 ((without_final_newline_begins text).mem member)
    show (!(withoutFinalNewline text).contains '\n') = true
    simpa using none
  | @blank c rest space _ ih =>
    rw [List.mem_cons, not_or] at single
    rw [List.dropWhile_cons_of_pos space]
    exact ih single.2

theorem lone_brace_iff {cs : List Char} (single : '\n' ∉ cs) {found : Found} :
    findLoneBrace cs = some found ↔
      ∃ before after, cs = before ++ '{' :: after ∧ Blank before ∧ LineRest after ∧
        found = ⟨0, .part (some before.length), []⟩ := by
  constructor
  · intro hit
    unfold findLoneBrace at hit
    split at hit
    · rename_i before after spanned
      obtain ⟨rfl, follows⟩ := Prod.mk.inj spanned
      split at hit
      · rename_i ends
        refine ⟨_, after, ?_, List.all_eq_true.mp List.all_takeWhile, line_rest_shown ends,
          (Option.some.inj hit).symm⟩
        rw [← follows, List.takeWhile_append_dropWhile]
      · cases hit
    · cases hit
  · rintro ⟨before, after, rfl, blank, ends, rfl⟩
    have stops : Stops isBlank ('{' :: after) := rfl
    have follows : '\n' ∉ after := fun member =>
      single (List.mem_append_right before (List.mem_cons_of_mem _ member))
    rw [findLoneBrace, span, take_while_append blank stops, drop_while_append blank stops]
    exact if_pos (line_rest_accepted follows ends)

theorem lone_brace_ignores : loneBrace.IgnoresFinalBlanks := by
  intro cs tail single blank
  have noFeed : '\n' ∉ tail := by
    intro member
    cases blank _ member
  have single' : '\n' ∉ cs ++ tail := by
    simp [single, noFeed]
  apply Option.ext
  intro found
  show findLoneBrace (cs ++ tail) = some found ↔ findLoneBrace cs = some found
  rw [lone_brace_iff single', lone_brace_iff single]
  constructor
  · rintro ⟨before, after, whole, spaces, ends, rfl⟩
    have cut : (before ++ ['{']) ++ after = cs ++ tail := by
      rw [List.append_assoc, List.singleton_append, whole]
    obtain ⟨more, rfl, eq⟩ := cut_before_blanks blank cut (List.getLast?_concat ..) rfl
    rw [List.append_assoc, List.singleton_append] at eq
    exact ⟨before, more, eq.symm, spaces, line_rest_shorter blank ends, rfl⟩
  · rintro ⟨before, after, rfl, spaces, ends, rfl⟩
    refine ⟨before, after ++ tail, ?_, spaces, line_rest_longer blank ends, rfl⟩
    rw [List.append_assoc, List.cons_append]

end Pattern

section
variable {line cut : Line}

theorem hit_of_trimmed {p : Pattern} (ignores : p.IgnoresFinalBlanks) (reads : p.subject = .code)
    (trims : line.Trims cut) (single : '\n' ∉ cut.code) : p.matcher cut = p.matcher line := by
  obtain ⟨hidden, spaces, code⟩ := trims.code
  have found : p.find line.code = p.find cut.code := by
    rw [code]
    exact ignores _ _ single spaces
  simp only [Pattern.matcher, reads, Subject.of, found]

theorem trailing_of_trimmed (trims : line.Trims cut) (single : '\n' ∉ cut.text) :
    Pattern.trailingBlanks.matcher cut = .ok none := by
  have whole : withoutFinalNewline cut.text = cut.text := Pattern.without_final_newline_single single
  have nothing : Pattern.finalBlanks cut.text = [] := by
    show cut.text.rtakeWhile isSpaceOrTab = []
    rw [List.rtakeWhile_eq_nil_iff, trims.text]
    exact List.rdropWhile_last_not isSpaceOrTab line.text
  show Except.ok ((Pattern.findTrailing cut.text).map Found.hit) = .ok none
  rw [Pattern.findTrailing, whole, nothing]
  rfl

theorem indent_of_trimmed (trims : line.Trims cut) (some : cut.text ≠ []) :
    cut.indent = line.indent := by
  obtain ⟨tail, _, whole⟩ := trimmed_append line.text
  have outside : ∃ c ∈ cut.text, isSpaceOrTab c = false := by
    obtain ⟨c, last⟩ := Option.ne_none_iff_exists'.mp (mt List.getLast?_eq_none_iff.mp some)
    refine ⟨c, List.mem_of_getLast? last, ?_⟩
    rw [trims.text] at last
    exact trimmed_last last
  have ends : (cut.text.takeWhile isSpaceOrTab).length ≠ cut.text.length := by
    intro all
    obtain ⟨c, member, other⟩ := outside
    have same := (List.takeWhile_prefix isSpaceOrTab).eq_of_length all
    rw [List.takeWhile_eq_self_iff] at same
    rw [same c member] at other
    cases other
  rw [Line.indent, Line.indent, ← whole, ← trims.text, List.takeWhile_append, if_neg ends]

theorem indent_hit_of_trimmed (trims : line.Trims cut) (some : cut.text ≠ []) :
    spaceBeforeTab cut = spaceBeforeTab line := by
  rw [spaceBeforeTab, spaceBeforeTab, indent_of_trimmed trims some]

theorem no_indent_hit {line : Line} (empty : line.text = []) : spaceBeforeTab line = .ok none := by
  rw [spaceBeforeTab, Line.indent, empty]
  rfl

end

end LineLint
