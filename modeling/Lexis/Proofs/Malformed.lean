import Lexis.Proofs.Utf8
import Lexis.Proofs.Verbosity

/-!
# Where bytes stop being text

What is wrong with bytes that are not text is said without a decoder (`Malformed.Describes`): the
fault stands behind the longest start that is text, and extends over the longest start of what
follows that begins a character. The decoder stops in one of three ways (`Fails`), each with a text
read and a character begun or refused, and in each of them its fault is that one. So decoding fails
exactly with the fault that describes the bytes (`decode_eq_error_iff`), and a run that reads them
reports it.
-/

namespace Lexis.Text.Utf8

/-- So many bytes make up the longest start of some bytes that satisfies a condition. -/
structure IsLongestStart (condition : List UInt8 → Prop) (bytes : List UInt8) (length : Nat) :
    Prop where
  reached : ∃ start, start <+: bytes ∧ condition start ∧ start.length = length
  longest : ∀ start, start <+: bytes → condition start → start.length ≤ length

/-- The byte is the first one of some character. -/
def Starts (byte : UInt8) : Prop :=
  ∃ character tail, String.utf8EncodeChar character = byte :: tail

/-- The bytes are the first ones of some character, one at least, and not all of them. -/
def Begins (part : List UInt8) : Prop :=
  part ≠ [] ∧ ∃ character due, due ≠ [] ∧ String.utf8EncodeChar character = part ++ due

/-- What a fault says of bytes that are not text. -/
structure Malformed.Describes (fault : Malformed) (bytes : List UInt8) : Prop where
  /-- The fault stands behind the longest start that is text. -/
  position : IsLongestStart WellFormed bytes fault.position
  lead : bytes[fault.position]? = some fault.lead
  /-- The fault extends over as many of the bytes from there on as begin a character. -/
  extent : Starts fault.lead → IsLongestStart Begins (bytes.drop fault.position) fault.length
  /-- A byte that starts no character is a fault by itself. -/
  single : ¬Starts fault.lead → fault.length = 1
  invalidStart : fault.reason = .invalidStart ↔ ¬Starts fault.lead
  unexpectedEnd : fault.reason = .unexpectedEnd ↔
    Starts fault.lead ∧ fault.position + fault.length = bytes.length
  invalidContinuation : fault.reason = .invalidContinuation ↔
    Starts fault.lead ∧ fault.position + fault.length ≠ bytes.length

/-- The bytes have begun a character, and its next byte is due in the range. -/
def Due (lead : UInt8) (tail : List UInt8) (next : ByteRange) : Prop :=
  ∃ passed later, continuations lead = some (passed ++ next :: later) ∧
    List.Forall₂ (fun range byte => range.contains byte = true) passed tail

/-- A byte that follows a first byte can be the least one of its range. -/
theorem contains_low {lead : UInt8} {ranges : List ByteRange}
    (found : continuations lead = some ranges) :
    ∀ range ∈ ranges, range.contains range.low = true := by
  have tail : ByteRange.tail.contains ByteRange.tail.low = true := by decide
  have second : (secondRange lead).contains (secondRange lead).low = true := by
    unfold secondRange
    split_ifs <;> decide
  cases leadCase lead with
  | none _ refused =>
    rw [refused] at found
    contradiction
  | _ =>
    rename_i own
    obtain rfl := Option.some.inj (own.symm.trans found)
    simp [tail, second]

/-- Bytes in the first ranges of a first byte can be completed to a character. -/
theorem exists_encodeChar {lead : UInt8} {tail : List UInt8} {passed due : List ByteRange}
    (found : continuations lead = some (passed ++ due))
    (inRange : List.Forall₂ (fun range byte => range.contains byte = true) passed tail) :
    ∃ character, String.utf8EncodeChar character =
      lead :: (tail ++ due.map ByteRange.low) := by
  have rest : List.Forall₂ (fun range byte => range.contains byte = true) due
      (due.map ByteRange.low) := by
    rw [List.forall₂_map_right_iff, List.forall₂_same]
    exact fun range listed => contains_low found range (List.mem_append_right passed listed)
  exact ⟨_, encodeChar_of_fits ⟨_, found, List.rel_append inRange rest⟩⟩

/-- Bytes that have begun a character are the first ones of a character. -/
theorem Due.begins {lead : UInt8} {tail : List UInt8} {next : ByteRange}
    (due : Due lead tail next) : Begins (lead :: tail) := by
  obtain ⟨passed, later, found, inRange⟩ := due
  obtain ⟨character, bytes⟩ := exists_encodeChar found inRange
  exact ⟨List.cons_ne_nil _ _, character, _, by simp, bytes⟩

/-- A byte starts a character exactly when it has continuations. -/
theorem starts_iff {byte : UInt8} : Starts byte ↔ continuations byte ≠ none := by
  constructor
  · rintro ⟨character, tail, bytes⟩
    obtain ⟨lead, rest, sameBytes, ⟨ranges, found, _⟩, _⟩ := fits_encodeChar character
    obtain ⟨rfl, _⟩ := List.cons.inj (bytes.symm.trans sameBytes)
    simp [found]
  · intro continues
    obtain ⟨ranges, found⟩ := Option.ne_none_iff_exists'.1 continues
    have none : continuations byte = some ([] ++ ranges) := found
    obtain ⟨character, bytes⟩ := exists_encodeChar none .nil
    exact ⟨character, _, bytes⟩

theorem Due.starts {lead : UInt8} {tail : List UInt8} {next : ByteRange}
    (due : Due lead tail next) : Starts lead := by
  obtain ⟨passed, later, found, _⟩ := due
  rw [starts_iff, found]
  exact Option.some_ne_none _

/-- Where the next byte of a character is due in a range, no character has another one there. -/
theorem Due.contains {lead byte : UInt8} {tail more : List UInt8} {next : ByteRange}
    (due : Due lead tail next) {character : Char}
    (bytes : String.utf8EncodeChar character = lead :: (tail ++ byte :: more)) :
    next.contains byte = true := by
  obtain ⟨passed, later, found, inRange⟩ := due
  obtain ⟨first, rest, sameBytes, ⟨ranges, foundAgain, fits⟩, _⟩ := fits_encodeChar character
  obtain ⟨rfl, rfl⟩ := List.cons.inj (bytes.symm.trans sameBytes)
  obtain rfl := Option.some.inj (found.symm.trans foundAgain)
  have behind := List.forall₂_drop_append _ tail _ fits
  rw [← inRange.length_eq, List.drop_left] at behind
  cases behind with
  | cons contained _ => exact contained

/-- The ways in which bytes fail to be text, behind some that are. -/
inductive Fails : Malformed → List UInt8 → Prop where
  /-- A byte starts no character. -/
  | start (text : List Char) {byte : UInt8} (refused : continuations byte = none)
      (rest : List UInt8) :
    Fails ⟨(encode text).length, 1, byte, .invalidStart⟩ (encode text ++ byte :: rest)
  /-- A character has begun and a byte follows that is not in its range. -/
  | continuation (text : List Char) {lead byte : UInt8} {tail : List UInt8} {next : ByteRange}
      (due : Due lead tail next) (outside : next.contains byte ≠ true) (rest : List UInt8) :
    Fails ⟨(encode text).length, tail.length + 1, lead, .invalidContinuation⟩
      (encode text ++ lead :: (tail ++ byte :: rest))
  /-- A character has begun and nothing follows. -/
  | ending (text : List Char) {lead : UInt8} {tail : List UInt8} {next : ByteRange}
      (due : Due lead tail next) :
    Fails ⟨(encode text).length, tail.length + 1, lead, .unexpectedEnd⟩
      (encode text ++ lead :: tail)

namespace Decoder

/-- A step that refuses a byte fails on the bytes read with that byte behind them. -/
theorem Reads.fails_of_step {decoder : Decoder} {bytes : List UInt8} {byte : UInt8}
    {fault : Malformed} (reads : Reads decoder bytes) (stepped : decoder.step byte = .error fault)
    (rest : List UInt8) : Fails fault (bytes ++ byte :: rest) := by
  have way := decoder.stepCase byte
  rw [stepped] at way
  cases way with
  | refused latest position none =>
    cases reads
    exact .start latest.reverse none rest
  | broken latest position lead length number later outside =>
    obtain _ | ⟨_, _, tail, holds⟩ := reads
    obtain ⟨sameLength, _, passed, ranges, inRange⟩ := holds
    dsimp only at sameLength ranges
    subst sameLength
    rw [List.append_assoc, List.cons_append]
    exact .continuation latest.reverse ⟨passed, later, ranges, inRange⟩ outside rest

/-- An end of the input that is refused fails on the bytes read. -/
theorem Reads.fails_of_finish {decoder : Decoder} {bytes : List UInt8} {fault : Malformed}
    (reads : Reads decoder bytes) (finished : decoder.finish = .error fault) :
    Fails fault bytes := by
  cases reads with
  | between latest => contradiction
  | inside latest begun tail holds =>
    obtain ⟨lead, length, number, next, later⟩ := begun
    obtain ⟨sameLength, _, passed, ranges, inRange⟩ := holds
    dsimp only at sameLength ranges
    subst sameLength
    obtain rfl := Except.error.inj finished
    exact .ending latest.reverse ⟨passed, later, ranges, inRange⟩

/-- Read further bytes, up to the end of the input. -/
def readAll (decoder : Decoder) (bytes : List UInt8) : Except Malformed (List Char) :=
  bytes.foldlM Decoder.step decoder >>= Decoder.finish

theorem readAll_cons (decoder : Decoder) (byte : UInt8) (more : List UInt8) :
    decoder.readAll (byte :: more) = decoder.step byte >>= fun next => next.readAll more := by
  rw [readAll, List.foldlM_cons, bind_assoc]
  rfl

/-- However many bytes are read before one is refused, all of them fail. -/
theorem Reads.fails_of_readAll {decoder : Decoder} {bytes more : List UInt8} {fault : Malformed}
    (reads : Reads decoder bytes) (failed : decoder.readAll more = .error fault) :
    Fails fault (bytes ++ more) := by
  induction more generalizing decoder bytes with
  | nil =>
    rw [List.append_nil]
    exact reads.fails_of_finish failed
  | cons byte more ih =>
    rw [readAll_cons] at failed
    cases stepped : decoder.step byte with
    | error refusal =>
      rw [stepped] at failed
      obtain rfl := Except.error.inj failed
      exact reads.fails_of_step stepped more
    | ok next =>
      rw [stepped] at failed
      have fails := ih (reads.step stepped) failed
      rwa [List.append_assoc] at fails

/-- No character that is read is given up again. -/
theorem position_le_of_step {decoder next : Decoder} {byte : UInt8}
    (stepped : decoder.step byte = .ok next) : decoder.position ≤ next.position := by
  have way := decoder.stepCase byte
  rw [stepped] at way
  cases way with
  | alone latest position => exact Nat.le_add_right position 1
  | first latest position => exact Nat.le_refl position
  | last latest position lead length => exact Nat.le_add_right position (length + 1)
  | further latest position => exact Nat.le_refl position

/-- A byte is refused behind the characters that are read. -/
theorem position_of_step_error {decoder : Decoder} {byte : UInt8} {fault : Malformed}
    (stepped : decoder.step byte = .error fault) : decoder.position = fault.position := by
  have way := decoder.stepCase byte
  rw [stepped] at way
  cases way with
  | refused => rfl
  | broken => rfl

/-- The end of the input is refused behind the characters that are read. -/
theorem position_of_finish_error {decoder : Decoder} {fault : Malformed}
    (finished : decoder.finish = .error fault) : decoder.position = fault.position := by
  obtain ⟨latest, position, begun⟩ := decoder
  cases begun with
  | none => contradiction
  | some begun =>
    obtain rfl := Except.error.inj finished
    rfl

/-- A fault stands nowhere in front of what has been read. -/
theorem position_le_of_readAll {decoder : Decoder} {more : List UInt8} {fault : Malformed}
    (failed : decoder.readAll more = .error fault) : decoder.position ≤ fault.position := by
  induction more generalizing decoder with
  | nil => exact Nat.le_of_eq (position_of_finish_error failed)
  | cons byte more ih =>
    rw [readAll_cons] at failed
    cases stepped : decoder.step byte with
    | error refusal =>
      rw [stepped] at failed
      obtain rfl := Except.error.inj failed
      exact Nat.le_of_eq (position_of_step_error stepped)
    | ok next =>
      rw [stepped] at failed
      exact Nat.le_trans (position_le_of_step stepped) (ih failed)

end Decoder

/-- Bytes that cannot be decoded fail to be text with the fault that is found. -/
theorem fails_of_decode_error {bytes : List UInt8} {fault : Malformed}
    (failed : decode bytes = .error fault) : Fails fault bytes :=
  Decoder.reads_initial.fails_of_readAll failed

/-- No start of the bytes that is text goes beyond the fault. -/
theorem length_le_of_decode_error {text : List Char} {more : List UInt8} {fault : Malformed}
    (failed : decode (encode text ++ more) = .error fault) :
    (encode text).length ≤ fault.position := by
  rw [decode, List.foldlM_append, Decoder.initial, Decoder.foldlM_step_encode] at failed
  change Decoder.readAll ⟨_, 0 + (encode text).length, none⟩ more = .error fault at failed
  have position := Decoder.position_le_of_readAll failed
  rwa [Nat.zero_add] at position

/-- No start of a character is longer than one whose next byte does not fit. -/
theorem length_le_of_begins {lead byte : UInt8} {tail rest start : List UInt8} {next : ByteRange}
    (due : Due lead tail next) (outside : next.contains byte ≠ true) (begins : Begins start)
    (within : start <+: lead :: (tail ++ byte :: rest)) : start.length ≤ tail.length + 1 := by
  by_contra longer
  -- A longer start has the refused byte in it, where a character would have a byte of the range.
  obtain ⟨-, character, missing, -, bytes⟩ := begins
  have reached : lead :: tail ++ [byte] <+: start := by
    refine List.prefix_of_prefix_length_le ⟨rest, by simp⟩ within ?_
    simp only [List.length_append, List.length_cons, List.length_nil]
    omega
  obtain ⟨more, rfl⟩ := reached
  have whole : String.utf8EncodeChar character = lead :: (tail ++ byte :: (more ++ missing)) := by
    rw [bytes]
    simp
  exact outside (due.contains whole)

/-- A fault inside a character that has begun is described by its place and by whether it reaches the
end of the bytes. -/
theorem Malformed.Describes.of_begun {fault : Malformed} {bytes : List UInt8}
    (position : IsLongestStart WellFormed bytes fault.position)
    (lead : bytes[fault.position]? = some fault.lead) (starts : Starts fault.lead)
    (extent : IsLongestStart Begins (bytes.drop fault.position) fault.length)
    (reason : fault.reason = if fault.position + fault.length = bytes.length then .unexpectedEnd
      else .invalidContinuation) : fault.Describes bytes where
  position := position
  lead := lead
  extent _ := extent
  single own := absurd starts own
  invalidStart := by
    rw [reason]
    split <;> simp [starts]
  unexpectedEnd := by
    rw [reason]
    split <;> simp_all
  invalidContinuation := by
    rw [reason]
    split <;> simp_all

/-- In each way of failing the fault describes the bytes, if no text goes beyond it. -/
theorem Fails.describes {fault : Malformed} {bytes : List UInt8} (fails : Fails fault bytes)
    (longest : ∀ start, start <+: bytes → WellFormed start → start.length ≤ fault.position) :
    fault.Describes bytes := by
  cases fails with
  | start text refused rest =>
    rename_i byte
    have starts : ¬Starts byte := fun starts => starts_iff.1 starts refused
    exact {
      position := ⟨⟨encode text, ⟨_, rfl⟩, ⟨text, rfl⟩, rfl⟩, longest⟩
      lead := by simp
      extent := fun own => absurd own starts
      single := fun _ => rfl
      invalidStart := iff_of_true rfl starts
      unexpectedEnd := iff_of_false nofun fun ends => starts ends.1
      invalidContinuation := iff_of_false nofun fun goesOn => starts goesOn.1 }
  | continuation text due outside rest =>
    rename_i lead byte tail next
    have shorter : (encode text).length + (tail.length + 1) ≠
        (encode text ++ lead :: (tail ++ byte :: rest)).length := by
      simp only [List.length_append, List.length_cons]
      omega
    refine .of_begun ⟨⟨encode text, ⟨_, rfl⟩, ⟨text, rfl⟩, rfl⟩, longest⟩ (by simp) due.starts ?_
      (if_neg shorter).symm
    rw [List.drop_left]
    exact ⟨⟨lead :: tail, ⟨byte :: rest, rfl⟩, due.begins, rfl⟩, fun start within begins =>
      length_le_of_begins due outside begins within⟩
  | ending text due =>
    rename_i lead tail next
    have whole : (encode text).length + (tail.length + 1) =
        (encode text ++ lead :: tail).length := by
      simp only [List.length_append, List.length_cons]
    refine .of_begun ⟨⟨encode text, ⟨_, rfl⟩, ⟨text, rfl⟩, rfl⟩, longest⟩ (by simp) due.starts ?_
      (if_pos whole).symm
    rw [List.drop_left]
    exact ⟨⟨lead :: tail, List.prefix_rfl, due.begins, rfl⟩, fun start within _ =>
      within.length_le⟩

/-- The fault that decoding finds describes the bytes. -/
theorem describes_of_decode_error {bytes : List UInt8} {fault : Malformed}
    (failed : decode bytes = .error fault) : fault.Describes bytes := by
  refine (fails_of_decode_error failed).describes ?_
  rintro _ ⟨more, rfl⟩ ⟨text, rfl⟩
  exact length_le_of_decode_error failed

/-- A longest start has one length. -/
theorem IsLongestStart.unique {condition : List UInt8 → Prop} {bytes : List UInt8}
    {length other : Nat} (first : IsLongestStart condition bytes length)
    (second : IsLongestStart condition bytes other) : length = other := by
  obtain ⟨⟨start, within, holds, rfl⟩, longest⟩ := first
  obtain ⟨⟨start', within', holds', rfl⟩, longest'⟩ := second
  exact Nat.le_antisymm (longest' start within holds) (longest start' within' holds')

/-- Bytes are described by one fault at most. -/
theorem Malformed.Describes.unique {fault other : Malformed} {bytes : List UInt8}
    (first : fault.Describes bytes) (second : other.Describes bytes) : fault = other := by
  obtain ⟨position, length, lead, reason⟩ := fault
  obtain ⟨position', length', lead', reason'⟩ := other
  obtain rfl : position = position' := first.position.unique second.position
  obtain rfl : lead = lead' := Option.some.inj (first.lead.symm.trans second.lead)
  obtain rfl : length = length' := by
    by_cases starts : Starts lead
    · exact (first.extent starts).unique (second.extent starts)
    · exact (first.single starts).trans (second.single starts).symm
  obtain rfl : reason = reason' := by
    cases reason with
    | invalidStart => exact (second.invalidStart.2 (first.invalidStart.1 rfl)).symm
    | invalidContinuation =>
      exact (second.invalidContinuation.2 (first.invalidContinuation.1 rfl)).symm
    | unexpectedEnd => exact (second.unexpectedEnd.2 (first.unexpectedEnd.1 rfl)).symm
  rfl

/-- Decoding fails exactly with the fault that describes the bytes. -/
theorem decode_eq_error_iff {bytes : List UInt8} {fault : Malformed} :
    decode bytes = .error fault ↔ fault.Describes bytes := by
  refine ⟨describes_of_decode_error, fun describes => ?_⟩
  cases decoded : decode bytes with
  | ok text =>
    -- Bytes that are text are their own longest start, and no byte stands behind them.
    have wellFormed : WellFormed bytes := ⟨text, decode_eq_ok_iff.1 decoded⟩
    have whole := describes.position.longest bytes List.prefix_rfl wellFormed
    have inside := (List.getElem?_eq_some_iff.1 describes.lead).1
    omega
  | error found => rw [(describes_of_decode_error decoded).unique describes]

/-- No digit is the escape character. -/
theorem escape_ne_digitChar {digit : Nat} (small : digit < 16) :
    ControlSequence.escape ≠ Nat.digitChar digit := by
  revert digit
  decide

theorem escape_not_mem_toString (number : Nat) :
    ControlSequence.escape ∉ (toString number).toList := by
  intro within
  change _ ∈ (Nat.repr number).toList at within
  rw [Nat.toList_repr] at within
  have digit := Nat.isDigit_of_mem_toDigits (by decide) (by decide) within
  exact absurd digit (by decide)

theorem escape_not_mem_hexByte (byte : UInt8) :
    ControlSequence.escape ∉ (hexByte byte).toList := by
  have high : byte.toNat / 16 < 16 := by
    have bound := byte.toNat_lt
    omega
  have low : byte.toNat % 16 < 16 := Nat.mod_lt _ (by decide)
  simp [hexByte, escape_ne_digitChar high, escape_ne_digitChar low]

/-- There is no escape character in the wording of a fault. -/
theorem Malformed.escape_not_mem_message (fault : Malformed) :
    ControlSequence.escape ∉ fault.message.toList := by
  have place : ControlSequence.escape ∉ fault.place.toList := by
    unfold place
    split
    · simp only [String.toList_append, List.mem_append, not_or]
      exact ⟨⟨⟨by decide, escape_not_mem_hexByte _⟩, by decide⟩, escape_not_mem_toString _⟩
    · simp only [String.toList_append, List.mem_append, not_or]
      exact ⟨⟨⟨by decide, escape_not_mem_toString _⟩, by decide⟩, escape_not_mem_toString _⟩
  have reason : ControlSequence.escape ∉ fault.reason.message.toList := by
    cases fault.reason <;> decide
  unfold message
  simp only [String.toList_append, List.mem_append, not_or]
  exact ⟨⟨⟨by decide, place⟩, by decide⟩, reason⟩

end Text.Utf8

/-- The message about input that is not text is printed as it is. -/
theorem Fault.told_malformed (fault : Text.Utf8.Malformed) :
    (Fault.malformed fault).told =
      "Error: input is not valid UTF-8: 'utf-8' codec can't decode " ++ fault.place ++ ": " ++
        fault.reason.message ++ "\n" := by
  have plain : Text.ControlSequence.escape ∉
      ("Error: " ++ ("input is not valid UTF-8: " ++ fault.message)).toList := by
    simp only [String.toList_append, List.mem_append, not_or]
    exact ⟨by decide, by decide, fault.escape_not_mem_message⟩
  have joined : "Error: " ++ "input is not valid UTF-8: " ++ "'utf-8' codec can't decode " =
      "Error: input is not valid UTF-8: 'utf-8' codec can't decode " := rfl
  change printed ("Error: " ++ ("input is not valid UTF-8: " ++ fault.message)) = _
  rw [printed, Text.ControlSequence.strip_of_not_mem plain, ← joined]
  unfold Text.Utf8.Malformed.message
  simp only [String.append_assoc]

namespace Command

/-- A run that reads bytes, from standard input or from a file, classifies the words of the text
that they encode. Where they encode none, it prints nothing and reports the fault that describes
them. -/
theorem run_classifies_text_or_reports_fault {arguments : List String} {invocation : Invocation}
    {entry : String → Entry} {stdin : List UInt8} {record : LogRecord} {bytes : List UInt8}
    (request : Invocation.ofArguments arguments = .ok invocation)
    (silent : invocation.notice? = none) (source : invocation.Source entry stdin record bytes)
    (noNull : ∀ path, invocation.file? = some path → '\x00' ∉ path.toList) :
    (∀ text, Text.Utf8.encode text = bytes →
      let units := (Text.words text).map String.ofList
      run arguments entry stdin = .ok ⟨.success,
        printedLines ((classify invocation.options units).map invocation.tokenLine),
        invocation.shown [record, invocation.countRecord units]⟩) ∧
    ((¬∃ text, Text.Utf8.encode text = bytes) →
      ∃ fault : Text.Utf8.Malformed, fault.Describes bytes ∧
        run arguments entry stdin = .ok ⟨.invalidArguments, "",
          invocation.shown [record] ++
            ("Error: input is not valid UTF-8: 'utf-8' codec can't decode " ++ fault.place ++
              ": " ++ fault.reason.message ++ "\n")⟩) := by
  have reads : run arguments entry stdin = .ok (invocation.read record bytes) := by
    rw [run_of_ofArguments request noNull, Invocation.outcome_of_source silent source]
  rw [reads]
  constructor
  · rintro text rfl
    rw [Invocation.read, Text.Utf8.decode_encode]
    rfl
  · intro noText
    cases decoded : Text.Utf8.decode bytes with
    | ok text => exact absurd ⟨text, Text.Utf8.decode_eq_ok_iff.1 decoded⟩ noText
    | error fault =>
      refine ⟨fault, Text.Utf8.decode_eq_error_iff.1 decoded, ?_⟩
      have message := Fault.stderr_outcome (rfl : Fault.trace (Fault.malformed fault).exit = "")
        invocation.verbose
      rw [Fault.told_malformed] at message
      rw [Invocation.read, decoded, ← message]
      rfl

/-- The first two bytes of a character of three are one fault where a letter follows them. -/
theorem run_classifies_text_or_reports_fault_cut_character :
    let bytes : List UInt8 := [0x61, 0xE2, 0x82, 0x41]
    let entry := fun _ => Entry.file bytes
    let invocation := Invocation.ofParts [.verbose] (some "a") []
    Invocation.ofArguments ["-v", "-f", "a"] = .ok invocation ∧ invocation.notice? = none ∧
    invocation.Source entry [] (.readingFile "a") bytes ∧
    (∀ path, invocation.file? = some path → '\x00' ∉ path.toList) ∧
    run ["-v", "-f", "a"] entry [] = .ok ⟨.invalidArguments, "",
      "DEBUG: Reading lexemes from a\n" ++
        ("Error: input is not valid UTF-8: 'utf-8' codec can't decode " ++
          "bytes in position 1-2" ++ ": " ++ "invalid continuation byte" ++ "\n")⟩ := by
  intro bytes entry invocation
  have written : Written ["-v", "-f", "a"] (itemsOf [.verbose] (some "a") []) :=
    .complete (.letters [.verbose] (by decide)) (.withPath (.lettersPathDue []) "a" .nothing)
  have request : Invocation.ofArguments ["-v", "-f", "a"] = .ok invocation := by
    rw [ofArguments_of_written written, ofItems_itemsOf]
  have normal : Path.normal "a" = "a" := by decide
  have source : invocation.Source entry [] (.readingFile "a") bytes := by
    rw [← normal]
    exact .file rfl rfl rfl
  have noNull : ∀ path, invocation.file? = some path → '\x00' ∉ path.toList := by
    rintro path ⟨⟩
    decide
  have decoded : Text.Utf8.decode bytes = .error ⟨1, 2, 0xE2, .invalidContinuation⟩ := by decide
  obtain ⟨fault, describes, ran⟩ :=
    (run_classifies_text_or_reports_fault request rfl source noNull).2
      (Text.Utf8.not_wellFormed_of_decode_error decoded)
  obtain rfl := describes.unique (Text.Utf8.decode_eq_error_iff.1 decoded)
  have shown : invocation.shown [.readingFile "a"] = "DEBUG: Reading lexemes from a\n" := by decide
  have place : Text.Utf8.Malformed.place ⟨1, 2, 0xE2, .invalidContinuation⟩ =
      "bytes in position 1-2" := by decide
  rw [shown, place] at ran
  exact ⟨request, rfl, source, noNull, ran⟩

end Command

end Lexis
