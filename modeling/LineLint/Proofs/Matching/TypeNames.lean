import LineLint.Proofs.Matching.TypeHeader

/- Declarations of types whose name begins with a small letter. The rule about type names finds every
   one, and it would find no other if it tried all the ways to cut a line. -/
namespace LineLint
open LineLint.Text

def excludedWords : List String :=
  ["func", "var", "let", "subscript", "init", "deinit", "override", "final", "static", "private",
   "fileprivate", "internal", "public", "open", "convenience", "required"]

theorem member_words_eq : Pattern.memberWords = excludedWords := rfl

def BeginsSmall (name : List Char) : Prop := ∃ c more, name = c :: more ∧ isAsciiLower c = true

/-- A declaration whose type name, a whole word that is not the name of a kind of member, begins with
    a small letter. -/
structure SmallType (cs : List Char) extends TypeHeader cs where
  name : List Char
  rest : List Char
  cut : tail = name ++ rest
  named : IsRun isWord name rest
  small : BeginsSmall name
  noMember : ∀ word ∈ excludedWords, word.toList ≠ name

/-- A declaration read without care for how far the name goes: any part of a word will do that begins
    with a small letter, as long as no member word stands there whole. -/
structure LooseType (cs : List Char) extends TypeHeader cs where
  name : List Char
  rest : List Char
  cut : tail = name ++ rest
  letters : ∀ c ∈ name, isWord c = true
  small : BeginsSmall name
  ahead : ∀ word ∈ excludedWords, ∀ after, tail = word.toList ++ after → ¬ Stops isWord after

section
variable {cs : List Char}

theorem small_type_open (d : SmallType cs) : Stops isBlank d.tail := by
  rw [d.cut]
  exact word_stops_blanks d.named.toSomeOf d.rest

theorem small_type_unique (d e : SmallType cs) : d = e := by
  have headers : d.toTypeHeader = e.toTypeHeader :=
    header_unique (small_type_open d) (small_type_open e)
  have tails : d.name ++ d.rest = e.name ++ e.rest := by
    rw [← d.cut, ← e.cut, headers]
  obtain ⟨names, rests⟩ := run_unique d.named.all d.named.stops e.named.all e.named.stops tails
  cases d
  cases e
  cases headers
  cases names
  cases rests
  rfl

theorem small_name_iff {name : List Char} :
    Pattern.isSmallTypeName name = true ↔
      BeginsSmall name ∧ ∀ word ∈ excludedWords, word.toList ≠ name := by
  have begins : name.head?.any isAsciiLower = true ↔ BeginsSmall name := by
    cases name with
    | nil => simp [BeginsSmall]
    | cons c more => simp [BeginsSmall]
  have others : Pattern.isOneOf Pattern.memberWords name = false ↔
      ∀ word ∈ excludedWords, word.toList ≠ name := by
    rw [member_words_eq, Bool.eq_false_iff, Ne, one_of_iff]
    simp
  rw [Pattern.isSmallTypeName, Bool.and_eq_true, Bool.not_eq_true', begins, others]

theorem small_nonempty {name : List Char} (small : BeginsSmall name) : name ≠ [] := by
  obtain ⟨c, more, rfl, _⟩ := small
  exact List.cons_ne_nil c more

theorem small_type_of_tail (h : TypeHeader cs) (small : BeginsSmall (h.tail.takeWhile isWord))
    (others : ∀ word ∈ excludedWords, word.toList ≠ h.tail.takeWhile isWord) :
    ∃ d : SmallType cs, d.toTypeHeader = h ∧ d.name = h.tail.takeWhile isWord := by
  have cut := (List.takeWhile_append_dropWhile (p := isWord) (l := h.tail)).symm
  exact ⟨⟨h, _, _, cut, take_while_run (small_nonempty small), small, others⟩, rfl, rfl⟩

def SmallType.found (d : SmallType cs) : Found :=
  ⟨0, .part (some d.lead.length), [("keyword", d.keyword.word), ("name", String.ofList d.name)]⟩

theorem small_type_found (d : SmallType cs) : Pattern.findSmallType cs = some d.found := by
  have taken := keyword_taken_whole type_words_all_words d.keyword (small_type_open d)
  have named : d.tail.takeWhile isWord = d.name := by
    rw [d.cut]
    exact take_while_append d.named.all d.named.stops
  have small := small_name_iff.mpr ⟨d.small, d.noMember⟩
  simp only [Pattern.findSmallType, header_read d.toTypeHeader (small_type_open d),
    TypeHeader.fromKeyword, type_keywords_eq, taken, Option.bind_eq_bind, Option.bind_some, named, small, if_true,
    lead_offset, String.ofList_toList, SmallType.found]

theorem small_type_exists {found : Found} (hit : Pattern.findSmallType cs = some found) :
    ∃ d : SmallType cs, found = d.found := by
  simp only [Pattern.findSmallType, type_keywords_eq, Option.bind_eq_bind,
    Option.bind_eq_some_iff] at hit
  obtain ⟨⟨keyword, rest⟩, taken, hit⟩ := hit
  split at hit
  · rename_i small
    cases hit
    obtain ⟨h, rfl, rfl⟩ := header_exists taken
    obtain ⟨begins, others⟩ := small_name_iff.mp small
    obtain ⟨d, rfl, named⟩ := small_type_of_tail h begins others
    refine ⟨d, ?_⟩
    simp only [SmallType.found, lead_offset, String.ofList_toList, named]
  · cases hit

theorem loose_type_whole (r : LooseType cs) :
    ∃ d : SmallType cs, d.toTypeHeader = r.toTypeHeader ∧ r.name <+: d.name := by
  obtain ⟨c, more, named, lower⟩ := r.small
  have begins : r.name <+: r.tail.takeWhile isWord := by
    rw [r.cut, List.takeWhile_append_of_pos r.letters]
    exact List.prefix_append _ _
  have small : BeginsSmall (r.tail.takeWhile isWord) := by
    obtain ⟨further, eq⟩ := begins
    rw [named, List.cons_append] at eq
    exact ⟨c, _, eq.symm, lower⟩
  have others : ∀ word ∈ excludedWords, word.toList ≠ r.tail.takeWhile isWord := by
    intro word member eq
    apply r.ahead word member (r.tail.dropWhile isWord)
    · rw [eq, List.takeWhile_append_dropWhile]
    · exact drop_while_stops isWord r.tail
  obtain ⟨d, header, whole⟩ := small_type_of_tail r.toTypeHeader small others
  exact ⟨d, header, whole ▸ begins⟩

theorem excluded_words_all_words : AllWords excludedWords := by
  unfold AllWords
  decide +kernel

theorem small_type_loose (d : SmallType cs) :
    ∃ r : LooseType cs, r.toTypeHeader = d.toTypeHeader ∧ r.name = d.name := by
  have ahead : ∀ word ∈ excludedWords, ∀ after, d.tail = word.toList ++ after →
      ¬ Stops isWord after := by
    intro word member after eq stops
    have letters := List.all_eq_true.mp (excluded_words_all_words word member).2
    obtain ⟨same, _⟩ := run_unique d.named.all d.named.stops letters stops (d.cut ▸ eq)
    exact d.noMember word member same.symm
  exact ⟨⟨d.toTypeHeader, d.name, d.rest, d.cut, d.named.all, d.small, ahead⟩, rfl, rfl⟩

end

/-- A line is hit for the name of a type exactly if it can be cut as such a declaration. It can in one
    way at most; the looser reading allows this one, and others only where the name is cut short. -/
theorem small_type_name_reported (line : Line) :
    (∃ outcome, Rule.typeNameCapitalized.matcher line = .ok outcome ∧
      ∀ hit, outcome = some hit ↔ ∃ d : SmallType line.code,
        hit = ⟨some (d.lead.length + 1),
          [("keyword", d.keyword.word), ("name", String.ofList d.name)]⟩) ∧
    (∀ d e : SmallType line.code, d = e) ∧
    (∀ r : LooseType line.code, ∃ d : SmallType line.code,
      d.toTypeHeader = r.toTypeHeader ∧ r.name <+: d.name) ∧
    ∀ d : SmallType line.code, ∃ r : LooseType line.code,
      r.toTypeHeader = d.toTypeHeader ∧ r.name = d.name := by
  refine ⟨⟨_, rfl, fun hit => ?_⟩, small_type_unique, loose_type_whole, small_type_loose⟩
  rw [Option.map_eq_some_iff]
  constructor
  · rintro ⟨found, hit, rfl⟩
    obtain ⟨d, rfl⟩ := small_type_exists hit
    exact ⟨d, rfl⟩
  · rintro ⟨d, rfl⟩
    exact ⟨d.found, small_type_found d, rfl⟩

def attributedClass : Line :=
  ⟨1, [], "  @objc(Foo) public final class myType<T> \x7b".toList⟩

def classMember : Line := ⟨1, [], "public class func make() \x7b".toList⟩

theorem space_blank : SomeOf isBlank [' '] :=
  ⟨List.cons_ne_nil _ _, List.all_eq_true.mp rfl⟩

def Keyword.spaceAfter {words : List String} (word : String) (listed : word ∈ words) :
    Keyword words :=
  ⟨word, [' '], listed, space_blank⟩

def attributedHeader : TypeHeader attributedClass.code where
  indent := "  ".toList
  attributes :=
    [⟨"objc".toList, some ⟨"Foo".toList, by decide⟩, [' '], ⟨by simp, List.all_eq_true.mp rfl⟩,
      space_blank⟩]
  modifiers := [.spaceAfter "public" (by decide), .spaceAfter "final" (by decide)]
  keyword := .spaceAfter "class" (by decide)
  tail := "myType<T> \x7b".toList
  indented := List.all_eq_true.mp rfl
  whole := by decide +kernel

def attributedType : SmallType attributedClass.code where
  toTypeHeader := attributedHeader
  name := "myType".toList
  rest := "<T> \x7b".toList
  cut := by decide +kernel
  named := ⟨⟨by simp, List.all_eq_true.mp rfl⟩, rfl⟩
  small := ⟨'m', "yType".toList, rfl, rfl⟩
  noMember := by decide

theorem attributed_class_reported :
    Rule.typeNameCapitalized.matcher attributedClass =
        .ok (some ⟨some 33, [("keyword", "class"), ("name", "myType")]⟩) ∧
      ¬ Nonempty (SmallType classMember.code) ∧ ¬ Nonempty (LooseType classMember.code) := by
  obtain ⟨⟨outcome, matched, hits⟩, _⟩ := small_type_name_reported attributedClass
  obtain ⟨⟨missed, matched', members⟩, _, whole, _⟩ := small_type_name_reported classMember
  have nothing : Pattern.findSmallType classMember.code = none := by decide +kernel
  have silent : Rule.typeNameCapitalized.matcher classMember = .ok none :=
    congrArg (fun found => Except.ok (Option.map Found.hit found)) nothing
  cases silent.symm.trans matched'
  have free : ¬ Nonempty (SmallType classMember.code) := by
    rintro ⟨d⟩
    cases (members _).mpr ⟨d, rfl⟩
  refine ⟨?_, free, ?_⟩
  · rw [matched, (hits _).mpr ⟨attributedType, rfl⟩]
    rfl
  · rintro ⟨r⟩
    obtain ⟨d, _⟩ := whole r
    exact free ⟨d⟩

end LineLint
