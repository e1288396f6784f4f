import LineLint.Proofs.Scan.Faults

/- Paths as their parts. A path is told by its parts, and one without idle parts is normalized; the
   directories from one up to the top are what fewer and fewer of its parts are joined to. -/
namespace LineLint

namespace Path

def IsName (part : String) : Prop := isIdle part = false ∧ '/' ∉ part.toList

instance (part : String) : Decidable (IsName part) :=
  inferInstanceAs (Decidable (_ ∧ _))

/-- The parts of the path of a directory: the first is empty for an absolute path. -/
structure Route (first : String) (names : List String) : Prop where
  single : '/' ∉ first.toList
  placed : first ≠ "."
  named : ∀ name ∈ names, IsName name

theorem name_nonempty {name : String} (named : IsName name) :
    ∃ c cs, name.toList = c :: cs ∧ c ≠ '/' := by
  obtain ⟨busy, single⟩ := named
  cases chars : name.toList with
  | nil =>
    rw [String.toList_eq_nil_iff.mp chars] at busy
    cases busy
  | cons c cs =>
    refine ⟨c, cs, rfl, ?_⟩
    rintro rfl
    exact single (chars ▸ List.mem_cons_self)

theorem parts_joined {names : List String} (some : names ≠ [])
    (single : ∀ name ∈ names, '/' ∉ name.toList) : parts ("/".intercalate names) = names :=
  Text.pieces_joined rfl some single

theorem mem_joined {names : List String} {c : Char} (member : c ∈ ("/".intercalate names).toList) :
    c = '/' ∨ ∃ name ∈ names, c ∈ name.toList := by
  rw [String.toList_intercalate] at member
  rcases Text.mem_intercalate member with slash | ⟨part, among, inner⟩
  · exact .inl (List.mem_singleton.mp slash)
  · obtain ⟨name, named, rfl⟩ := List.mem_map.mp among
    exact .inr ⟨name, named, inner⟩

section Joined

variable {first name : String} {names : List String}

theorem route_single (route : Route first names) : ∀ part ∈ first :: names, '/' ∉ part.toList := by
  rw [List.forall_mem_cons]
  exact ⟨route.single, fun part member => (route.named part member).2⟩

theorem parts_route (route : Route first names) :
    parts ("/".intercalate (first :: names)) = first :: names :=
  parts_joined (List.cons_ne_nil _ _) (route_single route)

theorem busy_names (route : Route first names) :
    names.filter (fun part => !isIdle part) = names := by
  rw [List.filter_eq_self]
  intro part member
  rw [(route.named part member).1]
  rfl

theorem start_of_empty {path : String} (rest : List Char) (chars : path.toList = '/' :: rest)
    (single : rest.head? ≠ some '/') : start path = "/" := by
  unfold start
  rw [chars]
  split
  · rfl
  · rename_i more same
    obtain rfl := (List.cons.inj same).2
    exact absurd rfl single
  · rfl
  · rename_i other
    exact absurd rfl (other rest)

theorem start_of_name {path : String} (relative : path.toList.head? ≠ some '/') :
    start path = "" := by
  unfold start
  split <;> simp_all

theorem normalized_of_busy {path : String} (some : path ≠ "")
    (kept : start path ++ "/".intercalate ((parts path).filter fun part => !isIdle part) = path) :
    normalized path = path := by
  simp only [normalized, kept]
  rw [if_neg]
  simpa using some

theorem joined_head (named : IsName name) (names : List String) :
    ∃ c, ("/".intercalate (name :: names)).toList.head? = some c ∧ c ≠ '/' := by
  obtain ⟨c, cs, chars, other⟩ := name_nonempty named
  refine ⟨c, ?_, other⟩
  cases names <;> simp [chars]

theorem joined_rest (first name : String) (names : List String) :
    ("/".intercalate (first :: name :: names)).toList =
      first.toList ++ '/' :: ("/".intercalate (name :: names)).toList := by
  rw [String.intercalate_cons_cons, String.toList_append, String.toList_append, List.append_assoc]
  rfl

theorem normalized_route (route : Route first (name :: names)) :
    normalized ("/".intercalate (first :: name :: names)) =
      "/".intercalate (first :: name :: names) := by
  have some : "/".intercalate (first :: name :: names) ≠ "" := by
    rw [ne_eq, ← String.toList_eq_nil_iff, joined_rest]
    simp
  refine normalized_of_busy some ?_
  rw [parts_route route]
  by_cases absolute : first = ""
  · subst absolute
    obtain ⟨c, head, other⟩ := joined_head (route.named name List.mem_cons_self) names
    have begins := start_of_empty _ (joined_rest "" name names) (by rw [head]; simpa using other)
    have skipped : ("" :: name :: names).filter (fun part => !isIdle part) = name :: names := by
      rw [List.filter_cons_of_neg (by decide), busy_names route]
    rw [begins, skipped, String.intercalate_cons_cons, String.empty_append]
  · have named : IsName first := ⟨by simp [isIdle, route.placed, absolute], route.single⟩
    obtain ⟨c, head, other⟩ := joined_head named (name :: names)
    have begins := start_of_name (by rw [head]; simpa using other)
    have kept : (first :: name :: names).filter (fun part => !isIdle part) =
        first :: name :: names := by
      rw [List.filter_cons_of_pos (by simp [named.1]), busy_names route]
    rw [begins, kept, String.empty_append]

end Joined

section Upward

theorem part_single {path part : String} (among : part ∈ parts path) : '/' ∉ part.toList := by
  obtain ⟨piece, ofPieces, rfl⟩ := List.mem_map.mp among
  rw [String.toList_ofList]
  exact Text.piece_free ofPieces

theorem mem_part {path part : String} {c : Char} (among : part ∈ parts path)
    (member : c ∈ part.toList) : c ∈ path.toList := by
  obtain ⟨piece, ofPieces, rfl⟩ := List.mem_map.mp among
  rw [String.toList_ofList] at member
  exact Text.piece_mem ofPieces member

def pathUp (first : String) (inner : List String) : String := "/".intercalate (first :: inner.reverse)

theorem route_reverse {first : String} {names : List String} :
    Route first names.reverse ↔ Route first names := by
  constructor
  · rintro ⟨single, placed, named⟩
    exact ⟨single, placed, fun name member => named name (List.mem_reverse.mpr member)⟩
  · rintro ⟨single, placed, named⟩
    exact ⟨single, placed, fun name member => named name (List.mem_reverse.mp member)⟩

theorem path_up_inj {first : String} {inner inner' : List String} (route : Route first inner)
    (route' : Route first inner') (same : pathUp first inner = pathUp first inner') :
    inner = inner' := by
  have parts := congrArg parts same
  rw [pathUp, pathUp, parts_route (route_reverse.mpr route), parts_route (route_reverse.mpr route')]
    at parts
  exact List.reverse_inj.mp (List.cons.inj parts).2

theorem normalized_path_up {first name : String} {above : List String}
    (route : Route first (name :: above)) :
    normalized (pathUp first (name :: above)) = pathUp first (name :: above) := by
  obtain ⟨outer, rest, turned⟩ := List.exists_cons_of_ne_nil
    (List.reverse_ne_nil_iff.mpr (List.cons_ne_nil name above))
  have turnedRoute := route_reverse.mpr route
  rw [pathUp, turned]
  rw [turned] at turnedRoute
  exact normalized_route turnedRoute

def directoryUp (first : String) : List String → String
  | [] => if first.isEmpty then "/" else first
  | part :: above => pathUp first (part :: above)

theorem ancestors_cons (first part : String) (above : List String) :
    ancestors first (part :: above) = directoryUp first (part :: above) :: ancestors first above := rfl

theorem join_directory {first : String} {above : List String} (route : Route first above)
    (name : String) : join (directoryUp first above) name = pathUp first (name :: above) := by
  cases above with
  | nil =>
    by_cases absolute : first = ""
    · subst absolute
      simp [directoryUp, join, pathUp]
    · have other : first ≠ "/" := by
        rintro rfl
        exact route.single (by decide)
      simp [directoryUp, join, pathUp, absolute, other]
  | cons part above =>
    have other : pathUp first (part :: above) ≠ "/" := by
      intro same
      have parts := congrArg parts same
      have slash : Path.parts "/" = ["", ""] := by decide
      rw [pathUp, parts_route (route_reverse.mpr route), slash] at parts
      -- The only part below the root would be empty.
      have turned := congrArg List.reverse (List.cons.inj parts).2
      rw [List.reverse_reverse] at turned
      have busy := (route.named part List.mem_cons_self).1
      rw [(List.cons.inj turned).1] at busy
      cases busy
    have more : first :: (name :: part :: above).reverse =
        (first :: (part :: above).reverse) ++ [name] := by simp
    rw [directoryUp, join, if_neg other, pathUp, pathUp, more,
      String.intercalate_append_of_ne_nil (List.cons_ne_nil _ _) (List.cons_ne_nil _ _),
      String.intercalate_singleton]

theorem upward_cases (directory : String) :
    upward directory = [] ∨ ∃ first above, upward directory = ancestors first above ∧
      Route first above ∧ ∀ part ∈ first :: above, part ∈ parts directory := by
  unfold upward
  cases placed : (parts directory).filter fun part => part != "." with
  | nil => exact .inl rfl
  | cons first rest =>
    have kept : ∀ part ∈ first :: rest, part ∈ parts directory ∧ part ≠ "." := by
      intro part member
      rw [← placed] at member
      obtain ⟨among, other⟩ := List.mem_filter.mp member
      exact ⟨among, bne_iff_ne.mp other⟩
    obtain ⟨ownPart, others⟩ := List.forall_mem_cons.mp kept
    have above : ∀ part ∈ (rest.filter fun part => part != "").reverse,
        part ∈ parts directory ∧ IsName part := by
      intro part member
      obtain ⟨among, busy⟩ := List.mem_filter.mp (List.mem_reverse.mp member)
      obtain ⟨ofDirectory, other⟩ := others part among
      exact ⟨ofDirectory, by simp [isIdle, bne_iff_ne.mp busy, other], part_single ofDirectory⟩
    refine .inr ⟨first, _, rfl, ⟨part_single ownPart.1, ownPart.2, fun part member =>
      (above part member).2⟩, ?_⟩
    rw [List.forall_mem_cons]
    exact ⟨ownPart.1, fun part member => (above part member).1⟩

example : upward "/a/b" = ["/a/b", "/a", "/"] := by decide

end Upward

end Path

end LineLint
