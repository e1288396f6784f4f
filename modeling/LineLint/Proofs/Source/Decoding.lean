import LineLint.Proofs.Scan.Forms
import LineLint.Proofs.Scan.Faults
import LineLint.Proofs.Text.FirstFault
import LineLint.Scan.File

/- Bytes as a source: strict UTF-8 after one byte-order mark. They are refused where the longest part in
   front that is a text ends, what is read of them has no surrogates, and a file is scanned as its bytes
   are. -/
namespace LineLint

/-- The bytes but for one byte-order mark in front. -/
def AfterMark (bytes body : List UInt8) : Prop :=
  bytes = [0xEF, 0xBB, 0xBF] ++ body ∨ ¬ [0xEF, 0xBB, 0xBF] <+: bytes ∧ body = bytes

theorem after_mark_without_mark (bytes : List UInt8) : AfterMark bytes (withoutMark bytes) := by
  unfold withoutMark
  split
  · exact .inl rfl
  · rename_i unmarked
    refine .inr ⟨?_, rfl⟩
    rintro ⟨rest, rfl⟩
    exact unmarked rest rfl

theorem decode_source_marked (text : List Char) :
    decodeSource (Text.encodeChar markCharacter ++ Text.encode text) = .ok text := by
  rw [decode_source_eq_ok_iff, without_mark_append]

theorem second_mark_kept {bytes : List UInt8} {text : List Char}
    (marked : [0xEF, 0xBB, 0xBF] <+: withoutMark bytes) (read : decodeSource bytes = .ok text) :
    text.head? = some markCharacter := by
  obtain ⟨rest, leads⟩ := marked
  rw [decode_source_eq_ok_iff, ← leads, ← mark_encoded] at read
  cases text with
  | nil => cases read
  | cons c text => rw [List.head?_cons, mark_leads read]

theorem decode_source_error {bytes : List UInt8} {fault : EncodingFault}
    (failed : decodeSource bytes = .error fault) :
    ∃ first, fault = .bytes first ∧ Text.decode (withoutMark bytes) = .error first := by
  unfold decodeSource at failed
  cases decoded : Text.decode (withoutMark bytes) with
  | ok text =>
    rw [decoded] at failed
    cases failed
  | error first =>
    rw [decoded] at failed
    cases failed
    exact ⟨first, rfl, rfl⟩

namespace EncodingFault

def Tells (reason : String) (start : Nat) (cause : String) : Prop :=
  (∃ byte : Nat, reason = "'utf-8' codec can't decode byte 0x" ++ hexText 2 byte ++ " in position " ++
    toString start ++ ": " ++ cause) ∨
  ∃ last : Nat, reason = "'utf-8' codec can't decode bytes in position " ++ toString start ++ "-" ++
    toString last ++ ": " ++ cause

theorem bytes_reason_tells (fault : Text.DecodeFault) :
    Tells (EncodingFault.bytes fault).reason fault.start (causeText fault.cause) := by
  obtain ⟨start, bytes, cause⟩ := fault
  have single : "'utf-8' codec can't decode byte 0x" = "'utf-8' codec can't decode " ++ "byte 0x" := by
    decide
  have several : "'utf-8' codec can't decode bytes in position " =
      "'utf-8' codec can't decode " ++ "bytes in position " := by decide
  unfold reason Tells
  simp only
  rw [single, several]
  split
  · rename_i byte
    refine .inl ⟨byte.toNat, ?_⟩
    simp only [String.append_assoc]
  · refine .inr ⟨start + bytes.length - 1, ?_⟩
    simp only [spanText, String.append_assoc]

theorem cause_text_end (cause : Text.DecodeCause) :
    causeText cause = "unexpected end of data" ↔ cause = .unexpectedEnd := by
  cases cause <;> decide

end EncodingFault

/-- Bytes are a text up to the start of their fault and no further. The cause is that the end came too soon
    if and only if more bytes could make a text of them. -/
structure FirstFault (body : List UInt8) (fault : Text.DecodeFault) : Prop where
  inside : fault.start < body.length
  valid : Text.IsUtf8 (body.take fault.start)
  longest : ∀ length, fault.start < length → length ≤ body.length → ¬ Text.IsUtf8 (body.take length)
  unfinished : EncodingFault.causeText fault.cause = "unexpected end of data" ↔
    ∃ more, Text.IsUtf8 (body ++ more)
  told : EncodingFault.Tells (EncodingFault.bytes fault).reason fault.start
    (EncodingFault.causeText fault.cause)

theorem decode_source_first_fault {bytes : List UInt8} {fault : EncodingFault}
    (failed : decodeSource bytes = .error fault) :
    ∃ first, fault = .bytes first ∧ FirstFault (withoutMark bytes) first := by
  obtain ⟨first, rfl, decoded⟩ := decode_source_error failed
  obtain ⟨inside, valid, longest, unfinished⟩ := Text.decode_fault decoded
  rw [← EncodingFault.cause_text_end] at unfinished
  exact ⟨first, rfl, inside, valid, longest, unfinished, EncodingFault.bytes_reason_tells first⟩

theorem check_text_iff_decoded {points : List Nat} (range : ∀ n ∈ points, n < 0x110000) :
    (∃ text, checkText points = .ok text) ↔
      ∃ bytes text, decodeSource bytes = .ok text ∧ text.map Char.toNat = points := by
  constructor
  · rintro ⟨text, accepted⟩
    obtain ⟨ordinary, rfl⟩ := (text_eq_ok_iff (.points points) text).mp accepted
    refine ⟨_, _, decode_source_marked (points.map Char.ofNat), ?_⟩
    have same : ∀ n ∈ points, (Char.ofNat n).toNat = n := by
      intro n member
      have notSurrogate := ordinary n member
      have small := range n member
      simp only [isSurrogate, Bool.and_eq_false_iff, decide_eq_false_iff_not] at notSurrogate
      exact Text.to_nat_of_nat (by simp only [Nat.isValidChar]; omega)
    rw [List.map_map]
    exact (List.map_congr_left same).trans (List.map_id points)
  · rintro ⟨bytes, text, _, rfl⟩
    exact ⟨text, (text_eq_ok_iff (.points _) text).mpr (points_read text)⟩

theorem scan_file_bytes {files : Files} {path : String} {bytes : List UInt8}
    (held : files (Path.normalized path) = .ok (.file bytes)) (noNull : Path.holdsNull path = false)
    (rules : List Rule) :
    scanFile files rules path =
      (scan rules (.bytes bytes)).mapError (.encoding (Path.normalized path)) := by
  have read : files.read (Path.normalized path) = .ok bytes := by rw [Files.read, held]
  simp only [scanFile, readSource, Path.holds_null_normalized noNull, read]
  show ((decodeSource bytes).mapError _).map _ = ((decodeSource bytes).map _).mapError _
  cases decodeSource bytes <;> rfl

/-- Bytes are read as strict UTF-8 after one byte-order mark, a second one as a character. They are refused
    at the end of the longest part in front that is a text. What can be read are the texts whose code points
    are accepted, and a file is scanned as its bytes are. -/
theorem decode_source_exact (bytes : List UInt8) :
    (∃ body, AfterMark bytes body ∧
      (∀ text, decodeSource bytes = .ok text ↔ text.flatMap String.utf8EncodeChar = body) ∧
      (∀ text, [0xEF, 0xBB, 0xBF] <+: body → decodeSource bytes = .ok text →
        text.head? = some '\uFEFF') ∧
      ∀ fault, decodeSource bytes = .error fault →
        ∃ first, fault = .bytes first ∧ FirstFault body first) ∧
    (∀ points : List Nat, (∀ n ∈ points, n < 0x110000) →
      ((∃ text, checkText points = .ok text) ↔
        ∃ bytes text, decodeSource bytes = .ok text ∧ text.map Char.toNat = points)) ∧
    ∀ (files : Files) (path : String) (rules : List Rule),
      files (Path.normalized path) = .ok (.file bytes) → Path.holdsNull path = false →
      scanFile files rules path =
        (scan rules (.bytes bytes)).mapError (.encoding (Path.normalized path)) := by
  refine ⟨⟨withoutMark bytes, after_mark_without_mark bytes, ?_, ?_, ?_⟩, ?_, ?_⟩
  · intro text
    rw [decode_source_eq_ok_iff, Text.encode_standard]
  · intro text marked read
    exact second_mark_kept marked read
  · intro fault failed
    exact decode_source_first_fault failed
  · intro points range
    exact check_text_iff_decoded range
  · intro files path rules held noNull
    exact scan_file_bytes held noNull rules

def cutSource : List UInt8 := [0xEF, 0xBB, 0xBF, 0xEF, 0xBB, 0xBF, 0x41, 0xE2, 0x82]

def cutFiles : Files := fun path =>
  if path = "a.swift" then .ok (.file cutSource) else .error .missing

theorem cut_source_refused :
    decodeSource cutSource = .error (.bytes ⟨4, [0xE2, 0x82], .unexpectedEnd⟩) ∧
    FirstFault (cutSource.drop 3) ⟨4, [0xE2, 0x82], .unexpectedEnd⟩ ∧
    (∃ bytes text, decodeSource bytes = .ok text ∧ text.map Char.toNat = [0xFEFF, 0x41]) ∧
    cutFiles (Path.normalized "./a.swift") = .ok (.file cutSource) ∧
    Path.holdsNull "./a.swift" = false ∧
    scanFile cutFiles Rule.builtin "./a.swift" =
      .error (.encoding "a.swift" (.bytes ⟨4, [0xE2, 0x82], .unexpectedEnd⟩)) := by
  have failed : decodeSource cutSource = .error (.bytes ⟨4, [0xE2, 0x82], .unexpectedEnd⟩) := by
    decide
  have named : Path.normalized "./a.swift" = "a.swift" := by decide
  have held : cutFiles (Path.normalized "./a.swift") = .ok (.file cutSource) := by
    rw [named]
    rfl
  have noNull : Path.holdsNull "./a.swift" = false := by decide
  obtain ⟨⟨body, after, _, _, refused⟩, points, scanned⟩ := decode_source_exact cutSource
  have body_eq : body = cutSource.drop 3 := by
    rcases after with whole | ⟨unmarked, _⟩
    · have parts : [0xEF, 0xBB, 0xBF] ++ cutSource.drop 3 = [0xEF, 0xBB, 0xBF] ++ body := whole
      exact (List.append_cancel_left parts).symm
    · exact absurd ⟨cutSource.drop 3, rfl⟩ unmarked
  obtain ⟨first, same, fault⟩ := refused _ failed
  cases same
  refine ⟨failed, body_eq ▸ fault, ?_, held, noNull, ?_⟩
  · exact (points [0xFEFF, 0x41] (by decide)).mp ⟨_, rfl⟩
  · rw [scanned cutFiles "./a.swift" Rule.builtin held noNull, named]
    show ((decodeSource cutSource).map _).mapError _ = _
    rw [failed]
    rfl

end LineLint
