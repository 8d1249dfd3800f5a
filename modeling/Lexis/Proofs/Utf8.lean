import Lexis.Text.Utf8
import Mathlib.Data.List.Forall2

/-!
# Texts and their bytes

The bytes of one character are a first byte and as many further ones as it asks for, each in its
range (`Fits`); that these are the encodings of characters is arithmetic and done once, in both
directions (`encodeChar_of_fits`, `fits_encodeChar`). What a decoder has read so far is the encoding
of its complete characters and the start of one more (`Decoder.Reads`), which each further byte
keeps. So bytes are decoded to a text exactly when they are the encoding of that text
(`decode_eq_ok_iff`).
-/

namespace Lexis.Text.Utf8

/-- The bytes are those of some text. -/
def WellFormed (bytes : List UInt8) : Prop := ∃ text, encode text = bytes

theorem ByteRange.contains_iff {range : ByteRange} {byte : UInt8} :
    range.contains byte = true ↔
      range.low.toNat ≤ byte.toNat ∧ byte.toNat ≤ range.high.toNat := by
  simp [contains, UInt8.le_iff_toNat_le]

theorem ByteRange.tail_contains_iff {byte : UInt8} :
    ByteRange.tail.contains byte = true ↔ 0x80 ≤ byte.toNat ∧ byte.toNat ≤ 0xBF :=
  contains_iff

/-- The range of the second byte of a character of three or four bytes. -/
def secondRange (lead : UInt8) : ByteRange :=
  if lead.toNat = 0xE0 then ⟨0xA0, 0xBF⟩
  else if lead.toNat = 0xED then ⟨0x80, 0x9F⟩
  else if lead.toNat = 0xF0 then ⟨0x90, 0xBF⟩
  else if lead.toNat = 0xF4 then ⟨0x80, 0x8F⟩
  else .tail

/-- A second byte is a tail that four first bytes narrow. -/
theorem secondRange_contains_iff {lead byte : UInt8} :
    (secondRange lead).contains byte = true ↔
      0x80 ≤ byte.toNat ∧ byte.toNat ≤ 0xBF ∧ (lead.toNat = 0xE0 → 0xA0 ≤ byte.toNat) ∧
        (lead.toNat = 0xED → byte.toNat ≤ 0x9F) ∧ (lead.toNat = 0xF0 → 0x90 ≤ byte.toNat) ∧
        (lead.toNat = 0xF4 → byte.toNat ≤ 0x8F) := by
  unfold secondRange
  split_ifs <;> simp [ByteRange.contains_iff, ByteRange.tail] at * <;> omega

/-- The ways of a first byte: it starts a character of one to four bytes, or none. -/
inductive LeadCase (lead : UInt8) : Prop where
  | one (high : lead.toNat < 0x80) (ranges : continuations lead = some [])
  | two (low : 0xC2 ≤ lead.toNat) (high : lead.toNat < 0xE0)
      (ranges : continuations lead = some [.tail])
  | three (low : 0xE0 ≤ lead.toNat) (high : lead.toNat < 0xF0)
      (ranges : continuations lead = some [secondRange lead, .tail])
  | four (low : 0xF0 ≤ lead.toNat) (high : lead.toNat < 0xF5)
      (ranges : continuations lead = some [secondRange lead, .tail, .tail])
  | none (outside : 0x80 ≤ lead.toNat ∧ lead.toNat < 0xC2 ∨ 0xF5 ≤ lead.toNat)
      (ranges : continuations lead = none)

/-- Every byte goes one of these ways. -/
theorem leadCase (lead : UInt8) : LeadCase lead := by
  have parts : lead.toNat < 0x80 ∨ (0x80 ≤ lead.toNat ∧ lead.toNat < 0xC2 ∨ 0xF5 ≤ lead.toNat) ∨
      (0xC2 ≤ lead.toNat ∧ lead.toNat < 0xE0) ∨ (0xE0 ≤ lead.toNat ∧ lead.toNat < 0xF0) ∨
      (0xF0 ≤ lead.toNat ∧ lead.toNat < 0xF5) := by omega
  have ranges := continuations.eq_def lead
  simp only [UInt8.lt_iff_toNat_lt, ← UInt8.toNat_inj, UInt8.reduceToNat] at ranges
  rcases parts with high | outside | ⟨low, high⟩ | ⟨low, high⟩ | ⟨low, high⟩
  · exact .one high (by grind)
  · exact .none outside (by grind)
  · exact .two low high (by grind)
  · exact .three low high (by grind [secondRange])
  · exact .four low high (by grind [secondRange])

/-- The bytes after a first byte are as many as it asks for, each in its range. -/
def Fits (lead : UInt8) (tail : List UInt8) : Prop :=
  ∃ ranges, continuations lead = some ranges ∧
    List.Forall₂ (fun range byte => range.contains byte = true) ranges tail

/-- The number that a further byte makes of the one so far. -/
def extend (number : Nat) (byte : UInt8) : Nat := number * 64 + byte.toNat % 64

/-- The number that the bytes of a character make up. -/
def number (lead : UInt8) (tail : List UInt8) : Nat :=
  tail.foldl extend (leadBits lead tail.length)

theorem ofNat_eq_of_toNat {value : Nat} (byte : UInt8) (same : value = byte.toNat) :
    UInt8.ofNat value = byte := by
  rw [same, UInt8.ofNat_toNat]

theorem toNat_byte (value : Nat) (small : value < 256) : (UInt8.ofNat value).toNat = value :=
  UInt8.toNat_ofNat_of_lt' small

theorem toNat_character {value : Nat} (valid : value.isValidChar) :
    (Char.ofNat value).toNat = value := by
  rw [Char.ofNat, dif_pos valid]
  rfl

/-- The bytes of the character with a number. -/
theorem encodeChar_ofNat {value : Nat} (valid : value.isValidChar) :
    String.utf8EncodeChar (Char.ofNat value) =
      if value ≤ 0x7F then [UInt8.ofNat value]
      else if value ≤ 0x7FF then
        [UInt8.ofNat (value / 64 % 32 + 0xC0), UInt8.ofNat (value % 64 + 0x80)]
      else if value ≤ 0xFFFF then
        [UInt8.ofNat (value / 4096 % 16 + 0xE0), UInt8.ofNat (value / 64 % 64 + 0x80),
          UInt8.ofNat (value % 64 + 0x80)]
      else
        [UInt8.ofNat (value / 262144 % 8 + 0xF0), UInt8.ofNat (value / 4096 % 64 + 0x80),
          UInt8.ofNat (value / 64 % 64 + 0x80), UInt8.ofNat (value % 64 + 0x80)] := by
  simp only [String.utf8EncodeChar, Char.toNat_val, toNat_character valid]

/-- Bytes that fit together are those of the character with their number. -/
theorem encodeChar_of_fits {lead : UInt8} {tail : List UInt8} (fits : Fits lead tail) :
    String.utf8EncodeChar (Char.ofNat (number lead tail)) = lead :: tail := by
  obtain ⟨ranges, found, inside⟩ := fits
  -- In each case the ranges bound the number so that its encoding has the form of these bytes.
  cases leadCase lead with
  | one high ranges =>
    obtain rfl := Option.some.inj (found.symm.trans ranges)
    cases inside
    have value : number lead [] = lead.toNat := rfl
    rw [encodeChar_ofNat (by unfold Nat.isValidChar; omega), if_pos (by omega),
      ofNat_eq_of_toNat lead value]
  | two low high ranges =>
    obtain rfl := Option.some.inj (found.symm.trans ranges)
    obtain _ | ⟨second, _ | _⟩ := inside
    rename_i b
    rw [ByteRange.tail_contains_iff] at second
    have value : number lead [b] = lead.toNat % 32 * 64 + b.toNat % 64 := rfl
    rw [encodeChar_ofNat (by unfold Nat.isValidChar; omega), if_neg (by omega), if_pos (by omega),
      ofNat_eq_of_toNat lead (by omega), ofNat_eq_of_toNat b (by omega)]
  | three low high ranges =>
    obtain rfl := Option.some.inj (found.symm.trans ranges)
    obtain _ | ⟨second, _ | ⟨third, _ | _⟩⟩ := inside
    rename_i b c
    rw [secondRange_contains_iff] at second
    rw [ByteRange.tail_contains_iff] at third
    have value : number lead [b, c] =
        (lead.toNat % 16 * 64 + b.toNat % 64) * 64 + c.toNat % 64 := rfl
    rw [encodeChar_ofNat (by unfold Nat.isValidChar; omega), if_neg (by omega), if_neg (by omega),
      if_pos (by omega), ofNat_eq_of_toNat lead (by omega),
      ofNat_eq_of_toNat b (by omega), ofNat_eq_of_toNat c (by omega)]
  | four low high ranges =>
    obtain rfl := Option.some.inj (found.symm.trans ranges)
    obtain _ | ⟨second, _ | ⟨third, _ | ⟨fourth, _ | _⟩⟩⟩ := inside
    rename_i b c d
    rw [secondRange_contains_iff] at second
    rw [ByteRange.tail_contains_iff] at third fourth
    have value : number lead [b, c, d] =
        ((lead.toNat % 8 * 64 + b.toNat % 64) * 64 + c.toNat % 64) * 64 + d.toNat % 64 := rfl
    rw [encodeChar_ofNat (by unfold Nat.isValidChar; omega), if_neg (by omega), if_neg (by omega),
      if_neg (by omega), ofNat_eq_of_toNat lead (by omega),
      ofNat_eq_of_toNat b (by omega), ofNat_eq_of_toNat c (by omega),
      ofNat_eq_of_toNat d (by omega)]
  | none outside ranges =>
    rw [ranges] at found
    contradiction

/-- The bytes of a character fit together and make up its number. -/
theorem fits_encodeChar (character : Char) :
    ∃ lead tail, String.utf8EncodeChar character = lead :: tail ∧ Fits lead tail ∧
      number lead tail = character.toNat := by
  have valid : character.toNat < 0xD800 ∨ 0xDFFF < character.toNat ∧ character.toNat < 0x110000 :=
    character.valid
  rw [← Char.ofNat_toNat character, encodeChar_ofNat valid, Char.ofNat_toNat]
  generalize character.toNat = value at valid
  -- The size of the number gives the form, and the first byte of a form asks for its other bytes.
  split_ifs with one two three
  · have first := toNat_byte value (by omega)
    refine ⟨_, _, rfl, ?_, first⟩
    cases leadCase (UInt8.ofNat value) with
    | one high ranges => exact ⟨_, ranges, .nil⟩
    | _ => omega
  · have first := toNat_byte (value / 64 % 32 + 0xC0) (by omega)
    have second := toNat_byte (value % 64 + 0x80) (by omega)
    refine ⟨_, _, rfl, ?_, ?_⟩
    · cases leadCase (UInt8.ofNat (value / 64 % 32 + 0xC0)) with
      | two low high ranges =>
        refine ⟨_, ranges, .cons ?_ .nil⟩
        rw [ByteRange.tail_contains_iff]
        omega
      | _ => omega
    · simp only [number, extend, leadBits, List.foldl, List.length]
      omega
  · have first := toNat_byte (value / 4096 % 16 + 0xE0) (by omega)
    have second := toNat_byte (value / 64 % 64 + 0x80) (by omega)
    have third := toNat_byte (value % 64 + 0x80) (by omega)
    refine ⟨_, _, rfl, ?_, ?_⟩
    · cases leadCase (UInt8.ofNat (value / 4096 % 16 + 0xE0)) with
      | three low high ranges =>
        refine ⟨_, ranges, .cons ?_ (.cons ?_ .nil)⟩
        · rw [secondRange_contains_iff]
          omega
        · rw [ByteRange.tail_contains_iff]
          omega
      | _ => omega
    · simp only [number, extend, leadBits, List.foldl, List.length]
      omega
  · have first := toNat_byte (value / 262144 % 8 + 0xF0) (by omega)
    have second := toNat_byte (value / 4096 % 64 + 0x80) (by omega)
    have third := toNat_byte (value / 64 % 64 + 0x80) (by omega)
    have fourth := toNat_byte (value % 64 + 0x80) (by omega)
    refine ⟨_, _, rfl, ?_, ?_⟩
    · cases leadCase (UInt8.ofNat (value / 262144 % 8 + 0xF0)) with
      | four low high ranges =>
        refine ⟨_, ranges, .cons ?_ (.cons ?_ (.cons ?_ .nil))⟩
        · rw [secondRange_contains_iff]
          omega
        · rw [ByteRange.tail_contains_iff]
          omega
        · rw [ByteRange.tail_contains_iff]
          omega
      | _ => omega
    · simp only [number, extend, leadBits, List.foldl, List.length]
      omega

theorem encode_singleton (character : Char) :
    encode [character] = String.utf8EncodeChar character := List.flatMap_singleton ..

/-- What is known of a character that has begun: the bytes read after the first one lie in the first
of its ranges and make up the number so far, and the other ranges are those still due. -/
structure Begun.Holds (begun : Begun) (tail : List UInt8) : Prop where
  length : begun.length = tail.length + 1
  number : begun.number =
    tail.foldl extend (leadBits begun.lead (tail.length + begun.later.length + 1))
  ranges : ∃ passed, continuations begun.lead = some (passed ++ begun.next :: begun.later) ∧
    List.Forall₂ (fun range byte => range.contains byte = true) passed tail

/-- What has been read of some bytes: the encoding of the complete characters, and the bytes of a
character that has begun, if one has. -/
inductive Decoder.Reads : Decoder → List UInt8 → Prop where
  | between (latest : List Char) :
    Reads ⟨latest, (encode latest.reverse).length, none⟩ (encode latest.reverse)
  | inside (latest : List Char) (begun : Begun) (tail : List UInt8) (holds : begun.Holds tail) :
    Reads ⟨latest, (encode latest.reverse).length, some begun⟩
      (encode latest.reverse ++ begun.lead :: tail)

namespace Decoder

theorem reads_initial : Reads initial [] := .between []

/-- When the bytes of a character fit together, the character is read. -/
theorem Reads.complete (latest : List Char) {lead : UInt8} {tail : List UInt8}
    (fits : Fits lead tail) :
    Reads (complete ⟨latest, (encode latest.reverse).length, none⟩ (tail.length + 1)
      (number lead tail)) (encode latest.reverse ++ lead :: tail) := by
  have bytes : encode (Char.ofNat (Utf8.number lead tail) :: latest).reverse =
      encode latest.reverse ++ lead :: tail := by
    rw [List.reverse_cons, encode_append, encode_singleton, encodeChar_of_fits fits]
  have read := Reads.between (Char.ofNat (Utf8.number lead tail) :: latest)
  rw [bytes, List.length_append] at read
  exact read

/-- The ways of a step: a byte is the first one of a character or of none, or it is one more of the
character that has begun or does not fit there. -/
inductive StepCase (byte : UInt8) : Decoder → Except Malformed Decoder → Prop where
  | refused (latest : List Char) (position : Nat) (none : continuations byte = .none) :
    StepCase byte ⟨latest, position, .none⟩ (.error ⟨position, 1, byte, .invalidStart⟩)
  | alone (latest : List Char) (position : Nat) (ranges : continuations byte = some []) :
    StepCase byte ⟨latest, position, .none⟩
      (.ok (complete ⟨latest, position, .none⟩ 1 byte.toNat))
  | first (latest : List Char) (position : Nat) {next : ByteRange} {later : List ByteRange}
      (ranges : continuations byte = some (next :: later)) :
    StepCase byte ⟨latest, position, .none⟩
      (.ok ⟨latest, position, some ⟨byte, 1, leadBits byte (later.length + 1), next, later⟩⟩)
  | last (latest : List Char) (position : Nat) (lead : UInt8) (length number : Nat)
      {next : ByteRange} (fits : next.contains byte = true) :
    StepCase byte ⟨latest, position, some ⟨lead, length, number, next, []⟩⟩
      (.ok (complete ⟨latest, position, .none⟩ (length + 1) (extend number byte)))
  | further (latest : List Char) (position : Nat) (lead : UInt8) (length number : Nat)
      {next : ByteRange} (following : ByteRange) (later : List ByteRange)
      (fits : next.contains byte = true) :
    StepCase byte ⟨latest, position, some ⟨lead, length, number, next, following :: later⟩⟩
      (.ok ⟨latest, position, some ⟨lead, length + 1, extend number byte, following, later⟩⟩)
  | broken (latest : List Char) (position : Nat) (lead : UInt8) (length number : Nat)
      {next : ByteRange} (later : List ByteRange) (outside : next.contains byte ≠ true) :
    StepCase byte ⟨latest, position, some ⟨lead, length, number, next, later⟩⟩
      (.error ⟨position, length, lead, .invalidContinuation⟩)

/-- Every step goes one of these ways. -/
theorem stepCase (decoder : Decoder) (byte : UInt8) :
    StepCase byte decoder (decoder.step byte) := by
  obtain ⟨latest, position, _ | ⟨lead, length, number, next, later⟩⟩ := decoder
  · change StepCase byte _ (start _ byte)
    unfold start
    split
    · rename_i none
      exact .refused latest position none
    · rename_i ranges
      exact .alone latest position ranges
    · rename_i ranges
      exact .first latest position ranges
  · change StepCase byte _ (proceed _ _ byte)
    unfold proceed
    split
    · rename_i fits
      cases later with
      | nil => exact .last latest position lead length number fits
      | cons following later => exact .further latest position lead length number following later fits
    · rename_i outside
      exact .broken latest position lead length number later outside

/-- A further byte keeps what is known. -/
theorem Reads.step {decoder next : Decoder} {bytes : List UInt8} {byte : UInt8}
    (reads : Reads decoder bytes) (stepped : decoder.step byte = .ok next) :
    Reads next (bytes ++ [byte]) := by
  have way := decoder.stepCase byte
  rw [stepped] at way
  cases way with
  | alone latest position ranges =>
    cases reads
    exact .complete latest ⟨[], ranges, .nil⟩
  | first latest position ranges =>
    cases reads
    refine .inside latest _ [] ⟨rfl, ?_, [], ranges, .nil⟩
    simp
  -- The byte lies in the first range due, and the character is complete when no other is.
  | last latest position lead length number fits =>
    obtain _ | ⟨_, _, tail, holds⟩ := reads
    obtain ⟨sameLength, sameNumber, passed, ranges, inRange⟩ := holds
    dsimp only at sameLength sameNumber ranges
    subst sameLength sameNumber
    have complete := Reads.complete latest ⟨_, ranges, List.rel_append inRange (.cons fits .nil)⟩
    simpa [Utf8.number, extend, Decoder.complete] using complete
  | further latest position lead length number following later fits =>
    obtain _ | ⟨_, _, tail, holds⟩ := reads
    obtain ⟨sameLength, sameNumber, passed, ranges, inRange⟩ := holds
    dsimp only at sameLength sameNumber ranges
    subst sameLength sameNumber
    rw [List.append_assoc, List.cons_append]
    refine .inside latest _ (tail ++ [byte])
      ⟨by simp, ?_, _, ?_, List.rel_append inRange (.cons fits .nil)⟩
    · simp [extend, Nat.add_comm, Nat.add_left_comm]
    · simpa using ranges

/-- The bytes read so far are known after any number of them. -/
theorem Reads.foldlM {decoder last : Decoder} {bytes more : List UInt8}
    (reads : Reads decoder bytes) (read : more.foldlM Decoder.step decoder = .ok last) :
    Reads last (bytes ++ more) := by
  induction more generalizing decoder bytes with
  | nil =>
    obtain rfl := Except.ok.inj read
    rwa [List.append_nil]
  | cons byte more ih =>
    rw [List.foldlM_cons] at read
    cases stepped : decoder.step byte with
    | error fault =>
      rw [stepped] at read
      contradiction
    | ok next =>
      rw [stepped] at read
      have known := ih (reads.step stepped) read
      rwa [List.append_assoc] at known

/-- The bytes due of a character that has begun are read one after the other. -/
theorem foldlM_step_begun (latest : List Char) (position : Nat) {lead : UInt8} {due : ByteRange}
    {later : List ByteRange} {tail : List UInt8}
    (fits : List.Forall₂ (fun range byte => range.contains byte = true) (due :: later) tail)
    (length number : Nat) :
    tail.foldlM Decoder.step ⟨latest, position, some ⟨lead, length, number, due, later⟩⟩ =
      .ok (complete ⟨latest, position, none⟩ (length + tail.length)
        (tail.foldl extend number)) := by
  induction later generalizing due tail length number with
  | nil =>
    obtain _ | ⟨fit, _ | _⟩ := fits
    rename_i byte
    have stepped : step ⟨latest, position, some ⟨lead, length, number, due, []⟩⟩ byte =
      .ok (complete ⟨latest, position, none⟩ (length + 1) (extend number byte)) := if_pos fit
    rw [List.foldlM_cons, stepped]
    rfl
  | cons following later ih =>
    obtain _ | ⟨fit, fits⟩ := fits
    rename_i byte tail
    have stepped : step ⟨latest, position, some ⟨lead, length, number, due, following :: later⟩⟩
        byte = .ok ⟨latest, position, some ⟨lead, length + 1, extend number byte, following,
          later⟩⟩ := if_pos fit
    have read := ih fits (length + 1) (extend number byte)
    rw [List.foldlM_cons, stepped]
    rw [List.length_cons, List.foldl_cons, ← Nat.add_assoc, Nat.add_right_comm]
    exact read

/-- The bytes of a character are read as that character. -/
theorem foldlM_step_encodeChar (latest : List Char) (position : Nat) (character : Char) :
    (String.utf8EncodeChar character).foldlM Decoder.step ⟨latest, position, none⟩ =
      .ok ⟨character :: latest, position + (String.utf8EncodeChar character).length, none⟩ := by
  obtain ⟨lead, tail, bytes, ⟨ranges, found, fits⟩, value⟩ := fits_encodeChar character
  rw [bytes, List.foldlM_cons]
  cases ranges with
  | nil =>
    cases fits
    have started : step ⟨latest, position, none⟩ lead =
        .ok (complete ⟨latest, position, none⟩ 1 lead.toNat) := by
      simp only [step, start, found]
    have same : Char.ofNat lead.toNat = character := by
      rw [← Char.ofNat_toNat character, ← value]
      rfl
    rw [started, complete, same]
    rfl
  | cons due later =>
    have started : step ⟨latest, position, none⟩ lead =
        .ok ⟨latest, position, some ⟨lead, 1, leadBits lead (later.length + 1), due, later⟩⟩ := by
      simp only [step, start, found]
    have count : later.length + 1 = tail.length := fits.length_eq
    have same : tail.foldl extend (leadBits lead (later.length + 1)) = character.toNat := by
      rw [count, ← value, Utf8.number]
    rw [started]
    change tail.foldlM Decoder.step _ = _
    rw [foldlM_step_begun latest position fits, complete, same, Char.ofNat_toNat, Nat.add_comm 1]
    rfl

/-- The bytes of a text are read as that text. -/
theorem foldlM_step_encode (latest text : List Char) (position : Nat) :
    (encode text).foldlM Decoder.step ⟨latest, position, none⟩ =
      .ok ⟨text.reverse ++ latest, position + (encode text).length, none⟩ := by
  induction text generalizing latest position with
  | nil => rfl
  | cons character text ih =>
    rw [encode, List.flatMap_cons, List.foldlM_append, foldlM_step_encodeChar]
    change (encode text).foldlM _ _ = _
    rw [ih]
    simp [encode, Nat.add_assoc]

end Decoder

/-- Bytes are decoded to a text exactly when they are the bytes of that text. -/
theorem decode_eq_ok_iff {bytes : List UInt8} {text : List Char} :
    decode bytes = .ok text ↔ encode text = bytes := by
  constructor
  · intro decoded
    rw [decode] at decoded
    cases read : bytes.foldlM Decoder.step Decoder.initial with
    | error fault =>
      rw [read] at decoded
      contradiction
    | ok last =>
      rw [read] at decoded
      have known := Decoder.reads_initial.foldlM read
      cases known with
      | between latest =>
        obtain rfl := Except.ok.inj decoded
        rfl
      | inside latest begun tail holds => contradiction
  · rintro rfl
    rw [decode, Decoder.initial, Decoder.foldlM_step_encode]
    change Except.ok _ = _
    simp

/-- The bytes of a text are decoded to it. -/
theorem decode_encode (text : List Char) : decode (encode text) = .ok text :=
  decode_eq_ok_iff.2 rfl

/-- Bytes that cannot be decoded are those of no text. -/
theorem not_wellFormed_of_decode_error {bytes : List UInt8} {fault : Malformed}
    (failed : decode bytes = .error fault) : ¬WellFormed bytes := by
  rintro ⟨text, encoded⟩
  have read := decode_eq_ok_iff.2 encoded
  exact absurd (failed.symm.trans read) (by simp)

end Lexis.Text.Utf8
