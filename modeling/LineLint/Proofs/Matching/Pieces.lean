import LineLint.Matcher.TypeName
import LineLint.Proofs.Text.Runs

/- Pieces of text one after the other, each with white space at its end, and what is left when all of
   them are dropped. A text is cut into pieces of one kind in a single way. -/
namespace LineLint.Pattern
open LineLint.Text
variable {Piece : Type} {drop : List Char → Option (List Char)} {text : Piece → List Char}

/-- Dropping takes one piece from the front of a text, with all the white space that it ends in. -/
structure Peels (drop : List Char → Option (List Char)) (text : Piece → List Char) : Prop where
  drops : ∀ p rest, Stops isBlank rest → drop (text p ++ rest) = some rest
  piece : ∀ cs rest, drop cs = some rest → ∃ p, cs = text p ++ rest
  opens : ∀ p rest, Stops isBlank (text p ++ rest)
  nonempty : ∀ p, text p ≠ []
  unique : ∀ p q, text p = text q → p = q

theorem pieces_open (peels : Peels drop text) {rest : List Char} (stops : Stops isBlank rest)
    (ps : List Piece) : Stops isBlank (ps.flatMap text ++ rest) := by
  cases ps with
  | nil => exact stops
  | cons p ps =>
    rw [List.flatMap_cons, List.append_assoc]
    exact peels.opens p _

theorem pieces_length (peels : Peels drop text) (ps : List Piece) :
    ps.length ≤ (ps.flatMap text).length := by
  induction ps with
  | nil => exact Nat.le_refl 0
  | cons p ps ih =>
    have := List.length_pos_iff.mpr (peels.nonempty p)
    rw [List.flatMap_cons, List.length_append, List.length_cons]
    omega

theorem pieces_drop_one (peels : Peels drop text) {rest : List Char} (stops : Stops isBlank rest)
    (p : Piece) (ps : List Piece) :
    drop ((p :: ps).flatMap text ++ rest) = some (ps.flatMap text ++ rest) := by
  rw [List.flatMap_cons, List.append_assoc]
  exact peels.drops p _ (pieces_open peels stops ps)

theorem repeated_drops (peels : Peels drop text) {rest : List Char} (stops : Stops isBlank rest)
    (last : drop rest = none) {fuel : Nat} {ps : List Piece} (enough : ps.length ≤ fuel) :
    repeated drop fuel (ps.flatMap text ++ rest) = rest := by
  induction fuel generalizing ps with
  | zero =>
    have none : ps = [] := List.length_eq_zero_iff.mp (Nat.le_zero.mp enough)
    subst none
    rfl
  | succ fuel ih =>
    unfold repeated
    cases ps with
    | nil =>
      rw [List.flatMap_nil, List.nil_append, last]
    | cons p ps =>
      rw [pieces_drop_one peels stops]
      exact ih (Nat.le_of_succ_le_succ enough)

theorem drop_all_pieces (peels : Peels drop text) {rest : List Char} (stops : Stops isBlank rest)
    (last : drop rest = none) (ps : List Piece) : dropAll drop (ps.flatMap text ++ rest) = rest := by
  have enough := pieces_length peels ps
  apply repeated_drops peels stops last
  rw [List.length_append]
  omega

theorem repeated_pieces (peels : Peels drop text) (fuel : Nat) (cs : List Char) :
    ∃ ps : List Piece, cs = ps.flatMap text ++ repeated drop fuel cs := by
  induction fuel generalizing cs with
  | zero => exact ⟨[], rfl⟩
  | succ fuel ih =>
    unfold repeated
    split
    · rename_i rest dropped
      obtain ⟨p, rfl⟩ := peels.piece cs rest dropped
      obtain ⟨ps, more⟩ := ih rest
      refine ⟨p :: ps, ?_⟩
      rw [List.flatMap_cons, List.append_assoc, ← more]
    · exact ⟨[], rfl⟩

theorem drop_all_exists (peels : Peels drop text) (cs : List Char) :
    ∃ ps : List Piece, cs = ps.flatMap text ++ dropAll drop cs :=
  repeated_pieces peels cs.length cs

theorem pieces_unique (peels : Peels drop text) {rest rest' : List Char}
    (stops : Stops isBlank rest) (last : drop rest = none) (stops' : Stops isBlank rest')
    (last' : drop rest' = none) {ps qs : List Piece}
    (same : ps.flatMap text ++ rest = qs.flatMap text ++ rest') : ps = qs ∧ rest = rest' := by
  induction ps generalizing qs with
  | nil =>
    cases qs with
    | nil => exact ⟨rfl, same⟩
    | cons q qs =>
      have dropped := pieces_drop_one peels stops' q qs
      rw [← same] at dropped
      cases last.symm.trans dropped
  | cons p ps ih =>
    have dropped := pieces_drop_one peels stops p ps
    cases qs with
    | nil =>
      rw [same] at dropped
      cases last'.symm.trans dropped
    | cons q qs =>
      -- One piece dropped on each side leaves the same, so the first pieces are of one text.
      have dropped' := pieces_drop_one peels stops' q qs
      rw [← same, dropped] at dropped'
      have others := Option.some.inj dropped'
      obtain ⟨rfl, ends⟩ := ih others
      subst ends
      rw [List.flatMap_cons, List.flatMap_cons, List.append_assoc, List.append_assoc] at same
      obtain rfl := peels.unique p q (List.append_cancel_right same)
      exact ⟨rfl, rfl⟩

end LineLint.Pattern
