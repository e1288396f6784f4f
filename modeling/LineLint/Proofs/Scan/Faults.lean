import LineLint.Proofs.Text.Pieces
import LineLint.Scan.File

/- Files that cannot be scanned. What is said about one names its path and its fault, and is a single
   line of text if the path is. -/
namespace LineLint

namespace EncodingFault

theorem hex_text_one_line (width n : Nat) : OneLine (hexText width n) := by
  rw [hexText, one_line_of_list, Text.hexDigits, List.mem_append, not_or]
  constructor
  · intro member
    cases List.eq_of_mem_replicate member
  · exact Text.line_feed_not_digit (by decide) n

theorem span_text_one_line (first last : Nat) : OneLine (spanText first last) := by
  rw [spanText, one_line_append, one_line_append]
  exact ⟨⟨number_one_line first, by decide⟩, number_one_line last⟩

theorem cause_text_one_line (cause : Text.DecodeCause) : OneLine (causeText cause) := by
  cases cause <;> decide

theorem reason_one_line (fault : EncodingFault) : OneLine fault.reason := by
  cases fault with
  | bytes fault =>
    unfold reason
    simp only [one_line_append]
    refine ⟨⟨⟨by decide, ?_⟩, by decide⟩, cause_text_one_line fault.cause⟩
    split
    · simp only [one_line_append]
      exact ⟨⟨⟨by decide, hex_text_one_line _ _⟩, by decide⟩, number_one_line _⟩
    · rw [one_line_append]
      exact ⟨by decide, span_text_one_line _ _⟩
  | surrogates point first last =>
    unfold reason
    simp only [one_line_append]
    refine ⟨⟨by decide, ?_⟩, by decide⟩
    split
    · simp only [one_line_append]
      exact ⟨⟨⟨by decide, hex_text_one_line _ _⟩, by decide⟩, number_one_line _⟩
    · rw [one_line_append]
      exact ⟨by decide, span_text_one_line _ _⟩

end EncodingFault

namespace Path

theorem start_mem {path : String} {c : Char} (member : c ∈ (start path).toList) : c = '/' := by
  unfold start at member
  split at member <;> simp_all

theorem normalized_mem {path : String} {c : Char} (member : c ∈ (normalized path).toList) :
    c ∈ path.toList ∨ c = '/' ∨ c = '.' := by
  simp only [normalized] at member
  split at member
  · right; right
    simpa using member
  · rw [String.toList_append, String.toList_intercalate] at member
    rcases List.mem_append.mp member with slash | inner
    · exact .inr (.inl (start_mem slash))
    · rcases Text.mem_intercalate inner with slash | ⟨part, among, inner⟩
      · exact .inr (.inl (List.mem_singleton.mp slash))
      · obtain ⟨text, kept, rfl⟩ := List.mem_map.mp among
        obtain ⟨piece, ofPieces, rfl⟩ := List.mem_map.mp (List.mem_filter.mp kept).1
        rw [String.toList_ofList] at inner
        exact .inl (Text.piece_mem ofPieces inner)

theorem holds_null_normalized {path : String} (none : holdsNull path = false) :
    holdsNull (normalized path) = false := by
  rw [holdsNull, List.contains_eq_mem, decide_eq_false_iff_not] at none ⊢
  intro member
  rcases normalized_mem member with own | slash | dot
  · exact none own
  · cases slash
  · cases dot

theorem normalized_one_line {path : String} (line : OneLine path) : OneLine (normalized path) := by
  intro member
  rcases normalized_mem member with own | slash | dot
  · exact line own
  · cases slash
  · cases dot

end Path

theorem scan_file_fault {files : Files} {rules : List Rule} {path : String} {fault : InputFault}
    (failed : scanFile files rules path = .error fault) (noNull : Path.holdsNull path = false) :
    (∃ access, files.read (Path.normalized path) = .error access ∧
      fault = .unreadable (Path.normalized path) access) ∨
    ∃ bytes encoding, files.read (Path.normalized path) = .ok bytes ∧
      decodeSource bytes = .error encoding ∧ fault = .encoding (Path.normalized path) encoding := by
  unfold scanFile readSource at failed
  simp only [Path.holds_null_normalized noNull] at failed
  cases read : files.read (Path.normalized path) with
  | error access =>
    rw [read] at failed
    cases failed
    exact .inl ⟨access, rfl, rfl⟩
  | ok bytes =>
    cases decoded : decodeSource bytes with
    | error encoding =>
      simp only [read, decoded] at failed
      cases failed
      exact .inr ⟨bytes, encoding, rfl, decoded, rfl⟩
    | ok text =>
      simp only [read, decoded] at failed
      cases failed

theorem fault_message_one_line {files : Files} {rules : List Rule} {path : String}
    {fault : InputFault} (failed : scanFile files rules path = .error fault)
    (noNull : Path.holdsNull path = false) (line : OneLine path) : OneLine fault.message := by
  have named := Path.normalized_one_line line
  rcases scan_file_fault failed noNull with ⟨access, _, rfl⟩ | ⟨bytes, encoding, _, _, rfl⟩
  · simp only [InputFault.message, one_line_append]
    exact ⟨⟨named, by decide⟩, access.single⟩
  · simp only [InputFault.message, EncodingFault.message, one_line_append]
    exact ⟨⟨named, by decide⟩, encoding.reason_one_line⟩

end LineLint
