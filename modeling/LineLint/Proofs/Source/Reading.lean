import LineLint.Proofs.Text.Utf8
import LineLint.Source

/- What a source is read as, and that it is refused only if it cannot be read at all. -/
namespace LineLint

/-- Bytes are read as the text whose UTF-8 form they are, after one byte-order mark; code points one
    by one, unless a surrogate is among them. -/
def Source.Reads : Source → List Char → Prop
  | .bytes content, text => Text.encode text = withoutMark content
  | .points content, text =>
      (∀ n ∈ content, isSurrogate n = false) ∧ content.map Char.ofNat = text

theorem decode_source_eq_ok_iff (content : List UInt8) (text : List Char) :
    decodeSource content = .ok text ↔ Text.encode text = withoutMark content := by
  rw [← Text.decode_eq_ok_iff, decodeSource]
  cases Text.decode (withoutMark content) with
  | error fault => simp
  | ok found => simp

theorem check_points_eq_ok_iff (position : Nat) (points : List Nat) (text : List Char) :
    checkPoints position points = .ok text ↔
      (∀ n ∈ points, isSurrogate n = false) ∧ points.map Char.ofNat = text := by
  induction points generalizing position text with
  | nil => simp [checkPoints]
  | cons n rest ih =>
    by_cases surrogate : isSurrogate n = true
    · simp [checkPoints, surrogate]
    · rw [List.forall_mem_cons, List.map_cons, checkPoints, if_neg surrogate]
      cases later : checkPoints (position + 1) rest with
      | ok found =>
        obtain ⟨ordinary, rfl⟩ := (ih (position + 1) found).mp later
        have first : isSurrogate n = false := Bool.eq_false_iff.mpr surrogate
        exact ⟨fun eq => ⟨⟨first, ordinary⟩, Except.ok.inj eq⟩, fun reads => congrArg _ reads.2⟩
      | error fault =>
        have refused : ¬ ∀ m ∈ rest, isSurrogate m = false := by
          intro ordinary
          have read := (ih (position + 1) _).mpr ⟨ordinary, rfl⟩
          rw [later] at read
          cases read
        simp [refused]

theorem text_eq_ok_iff (source : Source) (text : List Char) :
    source.text = .ok text ↔ source.Reads text := by
  cases source with
  | bytes content => exact decode_source_eq_ok_iff content text
  | points content => exact check_points_eq_ok_iff 0 content text

theorem points_read (text : List Char) : (Source.points (text.map Char.toNat)).Reads text := by
  constructor
  · intro n member
    obtain ⟨c, _, rfl⟩ := List.mem_map.mp member
    have valid : c.toNat.isValidChar := c.valid
    simp only [Nat.isValidChar] at valid
    simp only [isSurrogate, Bool.and_eq_false_iff, decide_eq_false_iff_not]
    omega
  · simp [Char.ofNat_toNat, Function.comp_def]

end LineLint
