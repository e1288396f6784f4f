import LineLint.Proofs.Masking.Grammar
import LineLint.Proofs.Masking.Leads
import LineLint.Proofs.Masking.SourceLines

/- Masking a source tree: its code and its delimiters stay, everything else is blanked, and nothing
   is open at its end. -/
namespace LineLint.Masker
open LineLint.Grammar

def construct : Quotes → Construct
  | .one => .string
  | .three => .textBlock

theorem construct_is_literal (quotes : Quotes) : (construct quotes).isLiteral := by
  cases quotes <;> rfl

theorem construct_eq_string {quotes : Quotes} : construct quotes = .string ↔ quotes = .one := by
  cases quotes <;> simp [construct]

theorem blank_other {c : Char} (other : c ≠ '\n') : blank c = ' ' := if_neg other

theorem comment_text_leads {c : Char} {outer : List Construct} {counts : List Int} {depth : Int}
    {follow : List Char} (quiet : Construct.string ∈ outer → c ≠ '\n')
    (ordinary : ¬ BoundsComment c follow) :
    Leads ⟨.comment :: outer, counts, depth⟩ [c] [blank c] follow
      ⟨.comment :: outer, counts, depth⟩ := by
  by_cases feed : c = '\n'
  · subst feed
    exact leads_newline (by simpa using fun inside => quiet inside rfl) follow
  · rw [blank_other feed]
    refine leads_take (by simpa using Ne.symm feed) fun line begins => ?_
    refine .commentText rfl fun bounds => ordinary ?_
    exact bounds.imp (And.imp_right (head_of_begins begins)) (And.imp_right (head_of_begins begins))

theorem comment_leads (body : Comment) {outer : List Construct} {counts : List Int} {depth : Int}
    {follow : List Char} (positive : 1 ≤ depth) (clear : body.Clear follow)
    (quiet : Construct.string ∈ outer → '\n' ∉ body.render) :
    Leads ⟨.comment :: outer, counts, depth⟩ body.render (body.render.map blank) follow
      ⟨.comment :: outer, counts, depth⟩ := by
  induction body generalizing depth follow with
  | done => exact leads_refl _ follow
  | text c rest ih =>
    simp only [Comment.render, List.mem_cons, not_or] at quiet
    obtain ⟨slash, star, clear⟩ := clear
    refine leads_trans (comment_text_leads (fun inside => Ne.symm (quiet inside).1) ?_)
      (ih positive clear fun inside => (quiet inside).2)
    rintro (⟨rfl, next⟩ | ⟨rfl, next⟩)
    · exact slash rfl next
    · exact star rfl next
  | nested inner rest inner_ih rest_ih =>
    simp only [Comment.render, List.mem_cons, List.mem_append, not_or] at quiet
    have opens : Leads ⟨.comment :: outer, counts, depth⟩ ['/', '*'] [' ', ' ']
        ((inner.render ++ '*' :: '/' :: rest.render) ++ follow)
        ⟨.comment :: outer, counts, depth + 1⟩ :=
      leads_take (by decide) fun line _ => .nestComment rfl
    have closes : Leads ⟨.comment :: outer, counts, depth + 1⟩ ['*', '/'] [' ', ' ']
        (rest.render ++ follow) ⟨.comment :: outer, counts, depth⟩ := by
      refine leads_take (by decide) fun line _ => ?_
      have deep : (depth + 1) - 1 ≠ 0 := by omega
      simpa using Takes.closeNested (m := ⟨.comment :: outer, counts, depth + 1⟩) rfl deep
    have shown : (Comment.nested inner rest).render.map blank =
        [' ', ' '] ++ (inner.render.map blank ++ ([' ', ' '] ++ rest.render.map blank)) := by
      simp [Comment.render, blank]
    rw [shown]
    have deeper : 1 ≤ depth + 1 := by omega
    have inside := inner_ih deeper clear.1 fun h => (quiet h).2.2.1
    have after := rest_ih positive clear.2 fun h => (quiet h).2.2.2.2.2
    exact leads_trans opens (leads_trans inside (leads_trans closes after))

/-- Where code stands: in the open, or in an interpolation with other constructs around it. -/
inductive Place where
  | top
  | interpolation (outer : List Construct) (counts : List Int)

def Place.masker (place : Place) (opened : Nat) (depth : Int) : Masker :=
  match place with
  | .top => ⟨[], [], depth⟩
  | .interpolation outer counts => ⟨.interpolation :: outer, (opened + 1 : Int) :: counts, depth⟩

theorem place_in_code (place : Place) (opened : Nat) (depth : Int) :
    (place.masker opened depth).InCode := by
  cases place with
  | top => exact .inl rfl
  | interpolation outer counts => exact .inr ⟨outer, rfl⟩

def Place.Counts (place : Place) (opened closed : Nat) (code : Code) : Prop :=
  place = .top ∨ code.openAfter opened = some closed

theorem plain_leads {place : Place} {c : Char} {opened : Nat} {depth : Int} {follow : List Char}
    (unquoted : c ≠ '"') (noComment : ¬ OpensComment c follow) (single : c ≠ '\n')
    (uncounted : place = .top ∨ c ≠ '(' ∧ c ≠ ')') :
    Leads (place.masker opened depth) [c] [c] follow (place.masker opened depth) := by
  refine leads_take (by simpa using Ne.symm single) fun line begins => ?_
  refine .plain (place_in_code place opened depth) unquoted (fun opens => noComment ?_) ?_
  · exact opens.imp_right (Or.imp (head_of_begins begins) (head_of_begins begins))
  · exact uncounted.imp_left fun top => by rw [top]; rfl

theorem paren_leads {place : Place} {c : Char} {opened closed : Nat} {depth : Int}
    {follow : List Char} (isParen : c = '(' ∨ c = ')')
    (counts : place = .top ∨ (opened : Int) + change c = closed) :
    Leads (place.masker opened depth) [c] [c] follow (place.masker closed depth) := by
  have single : c ≠ '\n' := by rcases isParen with rfl | rfl <;> decide
  cases place with
  | top =>
    have unquoted : c ≠ '"' := by rcases isParen with rfl | rfl <;> decide
    have noComment : ¬ OpensComment c follow := by
      rintro ⟨rfl, _⟩
      rcases isParen with h | h <;> exact absurd h (by decide)
    have leads : Leads (Place.top.masker opened depth) [c] [c] follow
        (Place.top.masker opened depth) := plain_leads unquoted noComment single (.inl rfl)
    exact leads
  | interpolation outer more =>
    have counted : (opened : Int) + change c = closed := counts.resolve_left (by simp)
    refine leads_take (by simpa using Ne.symm single) fun line begins => ?_
    have takes : (Place.masker (.interpolation outer more) opened depth).Takes (c :: line) _ :=
      .countParen rfl rfl isParen (by omega)
    have sum : (opened + 1 : Int) + change c = closed + 1 := by omega
    change (Place.masker (.interpolation outer more) opened depth).Takes (c :: line) _
    simpa only [Place.masker, sum] using takes

theorem line_comment_leads {m : Masker} {body follow : List Char} (code : m.InCode)
    (single : '\n' ∉ body) (ends : ∀ c ∈ follow.head?, c = '\n') :
    Leads m ('/' :: '/' :: body) ('/' :: '/' :: body.map blank) follow m := by
  intro more last after
  have blanked : body.map blank = blanks body :=
    List.map_congr_left fun c member => blank_other fun feed => single (feed ▸ member)
  rw [blanked]
  exact masks_step (.lineComment code) (by simp [single]) ends after

theorem block_comment_leads {m : Masker} (body : Comment) {follow : List Char} (code : m.InCode)
    (clear : body.Clear ('*' :: '/' :: follow))
    (quiet : Construct.string ∈ m.stack → '\n' ∉ body.render) :
    Leads m ('/' :: '*' :: (body.render ++ ['*', '/']))
      ('/' :: '*' :: (body.render.map blank ++ ['*', '/'])) follow
      { m with commentDepth := 0 } := by
  have opens : Leads m ['/', '*'] ['/', '*'] ((body.render ++ ['*', '/']) ++ follow)
      ⟨.comment :: m.stack, m.parens, 1⟩ := leads_take (by decide) fun line _ => .openComment code
  have inside : Leads ⟨.comment :: m.stack, m.parens, 1⟩ body.render (body.render.map blank)
      (['*', '/'] ++ follow) ⟨.comment :: m.stack, m.parens, 1⟩ :=
    comment_leads body (Int.le_refl 1) clear quiet
  have closes : Leads ⟨.comment :: m.stack, m.parens, 1⟩ ['*', '/'] ['*', '/'] follow
      { m with commentDepth := 0 } := leads_take (by decide) fun line _ => .closeComment rfl rfl
  exact leads_trans opens (leads_trans inside closes)

theorem body_head {body : Body} {follow : List Char} (formed : body.WellFormed .one follow) :
    body.render.head? ≠ some '"' := by
  cases body with
  | done => simp [Body.render]
  | ordinary c rest => simpa [Body.render] using formed.2.1 rfl
  | escape c rest => simp [Body.render]
  | interpolation code rest => simp [Body.render]

theorem string_opens {body : Body} {follow : List Char} (formed : body.WellFormed .one follow)
    (empty : body.render = [] → follow.head? ≠ some '"') :
    ¬ ['"', '"'] <+: body.render ++ (['"'] ++ follow) := by
  rintro ⟨more, same⟩
  have head := body_head formed
  cases rendered : body.render with
  | nil =>
    rw [rendered] at same
    have next : follow = '"' :: more := (List.cons.inj same).2.symm
    exact empty rendered (by rw [next]; rfl)
  | cons c text =>
    rw [rendered] at same head
    exact head (by rw [(List.cons.inj same).1]; rfl)

theorem open_literal_leads {m : Masker} {quotes : Quotes} {body : Body} {follow : List Char}
    (code : m.InCode) (formed : body.WellFormed quotes follow)
    (empty : quotes = .one → body.render = [] → follow.head? ≠ some '"') :
    Leads m quotes.marks quotes.marks (body.render ++ (quotes.marks ++ follow))
      (m.push (construct quotes)) := by
  cases quotes with
  | one =>
    refine leads_take (by decide) fun line begins => .openString code fun triple => ?_
    exact string_opens formed (empty rfl) (triple.trans begins)
  | three => exact leads_take (by decide) fun line _ => .openTextBlock code

theorem close_literal_leads (quotes : Quotes) (outer : List Construct) (counts : List Int)
    (depth : Int) (follow : List Char) :
    Leads ⟨construct quotes :: outer, counts, depth⟩ quotes.marks quotes.marks follow
      ⟨outer, counts, depth⟩ := by
  cases quotes with
  | one => exact leads_take (by decide) fun line _ => .closeString rfl
  | three => exact leads_take (by decide) fun line _ => .closeTextBlock rfl

theorem literal_leads {m : Masker} {quotes : Quotes} {body : Body} {follow : List Char}
    {last : Int} (code : m.InCode) (formed : body.WellFormed quotes follow)
    (empty : quotes = .one → body.render = [] → follow.head? ≠ some '"')
    (through : Leads ⟨construct quotes :: m.stack, m.parens, m.commentDepth⟩ body.render body.masked
      (quotes.marks ++ follow) ⟨construct quotes :: m.stack, m.parens, last⟩) :
    Leads m (quotes.marks ++ (body.render ++ quotes.marks))
      (quotes.marks ++ (body.masked ++ quotes.marks)) follow { m with commentDepth := last } := by
  have opens : Leads m quotes.marks quotes.marks ((body.render ++ quotes.marks) ++ follow)
      (m.push (construct quotes)) := by
    simpa using open_literal_leads code formed empty
  exact leads_trans opens (leads_trans through (close_literal_leads quotes _ _ last follow))

theorem ordinary_leads {quotes : Quotes} {outer : List Construct} {counts : List Int} {depth : Int}
    {c : Char} {follow : List Char}
    (quiet : Construct.string ∈ construct quotes :: outer → c ≠ '\n') (unescaped : c ≠ '\\')
    (notQuote : quotes = .one → c ≠ '"') (notFirst : c = '"' → ¬ ['"', '"'] <+: follow) :
    Leads ⟨construct quotes :: outer, counts, depth⟩ [c] [blank c] follow
      ⟨construct quotes :: outer, counts, depth⟩ := by
  by_cases feed : c = '\n'
  · subst feed
    exact leads_newline (fun inside => quiet inside rfl) follow
  · rw [blank_other feed]
    refine leads_take (by simpa using Ne.symm feed) fun line begins => ?_
    refine .literalText rfl (construct_is_literal quotes) unescaped ?_
    rintro (⟨isString, more, same⟩ | ⟨_, more, same⟩)
    · exact notQuote (construct_eq_string.mp isString) (List.cons.inj same).1.symm
    · obtain ⟨first, rest⟩ := List.cons.inj same
      exact notFirst first.symm (List.IsPrefix.trans ⟨more, rest⟩ begins)

theorem escape_leads {quotes : Quotes} {outer : List Construct} {counts : List Int} {depth : Int}
    {c : Char} {follow : List Char} (escaped : c ≠ '(') (single : c ≠ '\n') :
    Leads ⟨construct quotes :: outer, counts, depth⟩ ['\\', c] [blank '\\', blank c] follow
      ⟨construct quotes :: outer, counts, depth⟩ := by
  rw [blank_other single]
  have noFeed : '\n' ∉ ['\\', c] := by simpa using Ne.symm single
  exact leads_take noFeed fun line _ => .escape rfl (construct_is_literal quotes) escaped

theorem interpolation_leads {quotes : Quotes} {outer : List Construct} {counts : List Int}
    {depth last : Int} {text shown follow : List Char}
    (inside : Leads (Place.masker (.interpolation (construct quotes :: outer) counts) 0 depth) text
      shown (')' :: follow)
      (Place.masker (.interpolation (construct quotes :: outer) counts) 0 last)) :
    Leads ⟨construct quotes :: outer, counts, depth⟩ ('\\' :: '(' :: (text ++ [')']))
      (blank '\\' :: blank '(' :: (shown ++ [blank ')'])) follow
      ⟨construct quotes :: outer, counts, last⟩ := by
  have opens : Leads ⟨construct quotes :: outer, counts, depth⟩ ['\\', '('] [' ', ' ']
      ((text ++ [')']) ++ follow)
      (Place.masker (.interpolation (construct quotes :: outer) counts) 0 depth) :=
    leads_take (by decide) fun line _ => .openInterpolation rfl (construct_is_literal quotes)
  have closes : Leads (Place.masker (.interpolation (construct quotes :: outer) counts) 0 last)
      [')'] [' '] follow ⟨construct quotes :: outer, counts, last⟩ :=
    leads_take (by decide) fun line _ => .closeInterpolation rfl rfl (.inr rfl) rfl
  exact leads_trans opens (leads_trans (by simpa using inside) closes)

theorem counts_plain {place : Place} {opened closed : Nat} {c : Char} {rest : Code}
    (counts : place.Counts opened closed (.plain c rest)) :
    if c = '(' ∨ c = ')' then
      ∃ mid : Nat, (place = .top ∨ (opened : Int) + change c = mid) ∧ place.Counts mid closed rest
    else place.Counts opened closed rest := by
  split
  · rename_i isParen
    rcases counts with top | counts
    · exact ⟨opened, .inl top, .inl top⟩
    rcases isParen with rfl | rfl
    · exact ⟨opened + 1, .inr rfl, .inr counts⟩
    · cases opened with
      | zero => simp [Code.openAfter] at counts
      | succ mid =>
        have minus : change ')' = -1 := rfl
        have sum : ((mid + 1 : Nat) : Int) + change ')' = mid := by omega
        exact ⟨mid, .inr sum, .inr (by simpa [Code.openAfter] using counts)⟩
  · rename_i noParen
    rw [not_or] at noParen
    exact counts.imp_right fun counts => by simpa [Code.openAfter, noParen] using counts

theorem plain_item_leads {place : Place} {c : Char} {rest : Code} {opened closed : Nat}
    {depth : Int} {follow : List Char} (counts : place.Counts opened closed (.plain c rest))
    (unquoted : c ≠ '"') (noComment : ¬ OpensComment c (rest.render ++ follow))
    (quiet : Construct.string ∈ (place.masker opened depth).stack → c ≠ '\n') :
    ∃ mid, Leads (place.masker opened depth) [c] [c] (rest.render ++ follow)
      (place.masker mid depth) ∧ place.Counts mid closed rest := by
  have after := counts_plain counts
  split at after
  · rename_i isParen
    obtain ⟨mid, change, after⟩ := after
    exact ⟨mid, paren_leads isParen change, after⟩
  · rename_i noParen
    refine ⟨opened, ?_, after⟩
    by_cases feed : c = '\n'
    · subst feed
      exact leads_newline (fun inside => quiet inside rfl) _
    · exact plain_leads unquoted noComment feed (.inr (not_or.mp noParen))

theorem place_depth (place : Place) (opened : Nat) (depth last : Int) :
    { place.masker opened depth with commentDepth := last } = place.masker opened last := by
  cases place <;> rfl

theorem place_stack {place : Place} (opened closed : Nat) (depth last : Int) :
    (place.masker opened depth).stack = (place.masker closed last).stack := by
  cases place <;> rfl

mutual

theorem code_leads (code : Code) {place : Place} {opened closed : Nat} {depth : Int}
    {follow : List Char} (formed : code.WellFormed follow)
    (counts : place.Counts opened closed code)
    (quiet : Construct.string ∈ (place.masker opened depth).stack → '\n' ∉ code.render) :
    ∃ last, Leads (place.masker opened depth) code.render code.masked follow
      (place.masker closed last) := by
  match code with
  | .done =>
    refine ⟨depth, ?_⟩
    rcases counts with rfl | counts
    · exact leads_refl _ follow
    · cases counts
      exact leads_refl _ follow
  | .plain c rest =>
    obtain ⟨unquoted, slash, formed⟩ := formed
    simp only [Code.render, List.mem_cons, not_or] at quiet
    have noComment : ¬ OpensComment c (rest.render ++ follow) := by
      rintro ⟨rfl, next | next⟩
      · exact (slash rfl).1 next
      · exact (slash rfl).2 next
    obtain ⟨mid, leads, counts⟩ := plain_item_leads counts unquoted noComment
      fun inside => Ne.symm (quiet inside).1
    rw [place_stack opened mid depth depth] at quiet
    obtain ⟨last, after⟩ := code_leads rest formed counts fun inside => (quiet inside).2
    exact ⟨last, leads_trans leads after⟩
  | .lineComment body rest =>
    obtain ⟨single, ends, formed⟩ := formed
    simp only [Code.render, List.mem_cons, List.mem_append, not_or] at quiet
    obtain ⟨last, after⟩ := code_leads rest formed counts fun inside => (quiet inside).2.2.2
    have leads := line_comment_leads (place_in_code place opened depth) single ends
    exact ⟨last, leads_trans leads after⟩
  | .blockComment body rest =>
    obtain ⟨clear, formed⟩ := formed
    simp only [Code.render, List.mem_cons, List.mem_append, not_or] at quiet
    have leads := block_comment_leads body (place_in_code place opened depth) clear
      fun inside => (quiet inside).2.2.1
    rw [place_depth] at leads
    rw [place_stack opened opened depth 0] at quiet
    obtain ⟨last, after⟩ := code_leads rest formed counts fun inside => (quiet inside).2.2.2.2.2
    exact ⟨last, by simpa [Code.render, Code.masked] using leads_trans leads after⟩
  | .literal quotes body rest =>
    obtain ⟨formedBody, string, formed⟩ := formed
    simp only [Code.render, List.mem_append, not_or] at quiet
    have quietBody : Construct.string ∈ construct quotes :: (place.masker opened depth).stack →
        '\n' ∉ body.render := by
      intro inside
      rcases List.mem_cons.mp inside with isString | inside
      · exact (string (construct_eq_string.mp isString.symm)).1
      · exact (quiet inside).2.1
    obtain ⟨mid, through⟩ := body_leads body formedBody quietBody
    have leads := literal_leads (place_in_code place opened depth) formedBody
      (fun one => (string one).2) through
    rw [place_depth] at leads
    rw [place_stack opened opened depth mid] at quiet
    obtain ⟨last, after⟩ := code_leads rest formed counts fun inside => (quiet inside).2.2.2
    exact ⟨last, by simpa [Code.render, Code.masked] using leads_trans leads after⟩

theorem body_leads (body : Body) {quotes : Quotes} {outer : List Construct} {counts : List Int}
    {depth : Int} {follow : List Char} (formed : body.WellFormed quotes follow)
    (quiet : Construct.string ∈ construct quotes :: outer → '\n' ∉ body.render) :
    ∃ last, Leads ⟨construct quotes :: outer, counts, depth⟩ body.render body.masked
      (quotes.marks ++ follow) ⟨construct quotes :: outer, counts, last⟩ := by
  match body with
  | .done => exact ⟨depth, leads_refl _ _⟩
  | .ordinary c rest =>
    obtain ⟨unescaped, notQuote, notFirst, formed⟩ := formed
    simp only [Body.render, List.mem_cons, not_or] at quiet
    obtain ⟨last, after⟩ := body_leads rest formed fun inside =>
      (quiet (List.mem_cons.mp inside)).2
    refine ⟨last, leads_trans (ordinary_leads ?_ unescaped notQuote notFirst) after⟩
    exact fun inside => Ne.symm (quiet (List.mem_cons.mp inside)).1
  | .escape c rest =>
    obtain ⟨escaped, single, formed⟩ := formed
    simp only [Body.render, List.mem_cons, not_or] at quiet
    obtain ⟨last, after⟩ := body_leads rest formed fun inside =>
      (quiet (List.mem_cons.mp inside)).2.2
    exact ⟨last, leads_trans (escape_leads escaped single) after⟩
  | .interpolation code rest =>
    obtain ⟨formedCode, balanced, formed⟩ := formed
    simp only [Body.render, List.mem_cons, List.mem_append, not_or] at quiet
    let place := Place.interpolation (construct quotes :: outer) counts
    have within : ∃ mid, Leads (place.masker 0 depth) code.render code.masked
        (')' :: (rest.render ++ (quotes.marks ++ follow))) (place.masker 0 mid) :=
      code_leads code formedCode (.inr balanced)
        (by simpa [place, Place.masker] using fun inside => (quiet inside).2.2.1)
    obtain ⟨mid, inside⟩ := within
    obtain ⟨last, after⟩ := body_leads rest formed fun inside =>
      (quiet (List.mem_cons.mp inside)).2.2.2.2
    exact ⟨last, by
      simpa [Body.render, Body.masked] using leads_trans (interpolation_leads inside) after⟩

end

/-- A source that is written unambiguously is masked as its tree says, and leaves nothing open. -/
theorem source_tree_masked (code : Code) (formed : code.WellFormed [])
    (noReturn : '\r' ∉ code.render) :
    (sourceLines code.render).map Line.text = splitLines code.render ∧
    (sourceLines code.render).map Line.code = splitLines code.masked ∧
    ∃ steps, start.trace (splitLines code.render) = .ok steps ∧
      ((steps.map Prod.snd).getLastD start).stack = [] := by
  have inTheOpen : ∃ last, Leads start code.render code.masked [] ⟨[], [], last⟩ :=
    @code_leads code .top 0 0 0 [] formed (.inl rfl) (by simp [Place.masker])
  obtain ⟨last, leads⟩ := inTheOpen
  have masks := leads [] _ (masks_nil _)
  rw [List.append_nil, List.append_nil] at masks
  obtain ⟨steps, trace, codes, final⟩ := masks_trace masks noReturn
  exact ⟨source_lines_text _, by rw [source_lines_code trace, codes], steps, trace, final rfl⟩

def sample : Code :=
  .literal .one
    (.interpolation
      (.plain '(' (.literal .one (.ordinary ';' .done) (.plain ')' .done)))
      (.ordinary ';' .done))
    (.plain '\n' (.blockComment (.nested (.text ';' .done) .done) .done))

theorem sample_tree_masked :
    sample.WellFormed [] ∧ '\r' ∉ sample.render ∧
    (sourceLines sample.render).map Line.code =
      [['"', ' ', ' ', '(', '"', ' ', '"', ')', ' ', ' ', '"'],
       ['/', '*', ' ', ' ', ' ', ' ', ' ', '*', '/']] := by
  have formed : sample.WellFormed [] := by
    simp [sample, Code.WellFormed, Body.WellFormed, Comment.Clear, Code.Balanced, Code.openAfter,
      Code.render, Body.render, Comment.render, Quotes.marks]
  have noReturn : '\r' ∉ sample.render := by decide
  exact ⟨formed, noReturn, (source_tree_masked sample formed noReturn).2.1.trans (by decide)⟩

end LineLint.Masker
