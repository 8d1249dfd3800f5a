import Lexis.Proofs.CommandLine
import Lexis.Proofs.Utf8

/-!
# How a run ends

A request ends in one of seven ways (`Invocation.Ends`), and what each of them leaves behind is
said by that way alone. From them follows what every run keeps to: it serves its request or refuses
it (`Ends.serves_or_refuses`), it prints all of its answer or nothing, and it serves exactly the
requests that ask for a notice or for what can be read. No run ends as an internal fault or a
refusal of the vocabulary does.
-/

namespace Lexis

/-- A printed line has at least its end. -/
theorem printed_ne_empty (line : String) : printed line ≠ "" := by
  intro empty
  have characters := congrArg String.toList empty
  simp [printed] at characters

/-- The last of some printed lines is seen. -/
theorem printedLines_append_ne_empty (lines : List String) (last : String) :
    printedLines (lines ++ [last]) ≠ "" := by
  intro empty
  have characters := congrArg String.toList empty
  simp [printedLines, printed] at characters

namespace Command

namespace Invocation

variable {invocation : Invocation} {entry : String → Entry} {stdin : List UInt8}

/-- The bytes that a request reads words from, and the note that it makes of it. -/
inductive Source (invocation : Invocation) (entry : String → Entry) (stdin : List UInt8) :
    LogRecord → List UInt8 → Prop where
  | standardInput (noFile : invocation.file? = none) (alone : invocation.lexemes = []) :
    Source invocation entry stdin .readingStandardInput stdin
  | file {path : String} {content : List UInt8} (given : invocation.file? = some path)
      (stands : entry path = .file content) (alone : invocation.lexemes = []) :
    Source invocation entry stdin (.readingFile (Path.normal path)) content

/-- The ways a request ends. -/
inductive Ends (invocation : Invocation) (entry : String → Entry) (stdin : List UInt8) :
    Outcome → Prop where
  | notice (asked : Notice) (first : invocation.notice? = some asked) :
    Ends invocation entry stdin asked.outcome
  | lexemes (silent : invocation.notice? = none) (noFile : invocation.file? = none)
      (given : invocation.lexemes ≠ []) :
    Ends invocation entry stdin (invocation.classified [] invocation.lexemes)
  | words {record : LogRecord} {bytes : List UInt8} {text : List Char}
      (silent : invocation.notice? = none) (source : invocation.Source entry stdin record bytes)
      (decoded : Text.Utf8.decode bytes = .ok text) :
    Ends invocation entry stdin
      (invocation.classified [record] ((Text.words text).map String.ofList))
  | malformed {record : LogRecord} {bytes : List UInt8} {fault : Text.Utf8.Malformed}
      (silent : invocation.notice? = none) (source : invocation.Source entry stdin record bytes)
      (decoded : Text.Utf8.decode bytes = .error fault) :
    Ends invocation entry stdin (invocation.stopped [record] (.malformed fault))
  | noFile {path : String} (silent : invocation.notice? = none)
      (given : invocation.file? = some path) (stands : entry path = .missing) :
    Ends invocation entry stdin (Refusal.noFile path).outcome
  | isDirectory {path : String} (silent : invocation.notice? = none)
      (given : invocation.file? = some path) (stands : entry path = .directory) :
    Ends invocation entry stdin (Refusal.isDirectory path).outcome
  | conflict {path : String} {content : List UInt8} (silent : invocation.notice? = none)
      (given : invocation.file? = some path) (stands : entry path = .file content)
      (both : invocation.lexemes ≠ []) :
    Ends invocation entry stdin (invocation.stopped [] conflict)

/-- A request that has a source reads it. -/
theorem outcome_of_source (silent : invocation.notice? = none) {record : LogRecord}
    {bytes : List UInt8} (source : invocation.Source entry stdin record bytes) :
    invocation.outcome entry stdin = invocation.read record bytes := by
  cases source with
  | standardInput noFile alone => simp only [outcome, silent, noFile, alone, ↓reduceIte]
  | file given stands alone => simp only [outcome, silent, given, stands, alone, ↓reduceIte]

/-- A request with lexemes and no file classifies them. -/
theorem outcome_of_lexemes (silent : invocation.notice? = none) (noFile : invocation.file? = none)
    (given : invocation.lexemes ≠ []) :
    invocation.outcome entry stdin = invocation.classified [] invocation.lexemes := by
  simp only [outcome, silent, noFile, given, ↓reduceIte]

/-- A request that reads a source ends in one of two ways. -/
theorem ends_of_source (silent : invocation.notice? = none) {record : LogRecord}
    {bytes : List UInt8} (source : invocation.Source entry stdin record bytes) :
    invocation.Ends entry stdin (invocation.outcome entry stdin) := by
  rw [outcome_of_source silent source, read]
  cases decoded : Text.Utf8.decode bytes with
  | ok text => exact .words silent source decoded
  | error fault => exact .malformed silent source decoded

/-- Every request ends in one of these ways. -/
theorem ends (invocation : Invocation) (entry : String → Entry) (stdin : List UInt8) :
    invocation.Ends entry stdin (invocation.outcome entry stdin) := by
  cases asked : invocation.notice? with
  | some notice =>
    have shown : invocation.outcome entry stdin = notice.outcome := by simp only [outcome, asked]
    rw [shown]
    exact .notice notice asked
  | none =>
    cases given : invocation.file? with
    | none =>
      by_cases alone : invocation.lexemes = []
      · exact ends_of_source asked (.standardInput given alone)
      · rw [outcome_of_lexemes asked given alone]
        exact .lexemes asked given alone
    -- The path is looked up first, so one that leads to no file is refused beside lexemes as well.
    | some path =>
      cases stands : entry path with
      | missing => simpa only [outcome, asked, given, stands] using Ends.noFile asked given stands
      | directory =>
        simpa only [outcome, asked, given, stands] using Ends.isDirectory asked given stands
      | file content =>
        by_cases alone : invocation.lexemes = []
        · exact ends_of_source asked (.file given stands alone)
        · simpa only [outcome, asked, given, stands, alone, ↓reduceIte] using
            Ends.conflict asked given stands alone

/-- Where a request reads depends on its path and its lexemes alone. -/
theorem Source.congr {request : Invocation} {record : LogRecord} {bytes : List UInt8}
    (source : invocation.Source entry stdin record bytes)
    (files : request.file? = invocation.file?) (given : request.lexemes = invocation.lexemes) :
    request.Source entry stdin record bytes := by
  cases source with
  | standardInput noFile alone => exact .standardInput (files.trans noFile) (given.trans alone)
  | file path stands alone => exact .file (files.trans path) stands (given.trans alone)

/-- A request reads at most one source. -/
theorem Source.bytes_eq {record other : LogRecord} {bytes content : List UInt8}
    (source : invocation.Source entry stdin record bytes)
    (second : invocation.Source entry stdin other content) : bytes = content := by
  cases source with
  | standardInput noFile alone =>
    cases second with
    | standardInput => rfl
    | file given stands => exact absurd (noFile.symm.trans given) (by simp)
  | file given stands alone =>
    cases second with
    | standardInput noFile => exact absurd (noFile.symm.trans given) (by simp)
    | file sameGiven sameStands =>
      obtain rfl := Option.some.inj (given.symm.trans sameGiven)
      exact Entry.file.inj (stands.symm.trans sameStands)

/-- What a request asks for can be read: its path leads to a file, lexemes and a path are not both
given, and the bytes of its source are those of a text. -/
structure Readable (invocation : Invocation) (entry : String → Entry) (stdin : List UInt8) :
    Prop where
  file : ∀ path, invocation.file? = some path → ∃ content, entry path = .file content
  exclusive : invocation.lexemes = [] ∨ invocation.file? = none
  text : ∀ record bytes, invocation.Source entry stdin record bytes → Text.Utf8.WellFormed bytes

/-- Given lexemes need no source. -/
theorem readable_of_lexemes (noFile : invocation.file? = none) (given : invocation.lexemes ≠ []) :
    invocation.Readable entry stdin where
  file path some := absurd (noFile.symm.trans some) (by simp)
  exclusive := .inr noFile
  text record bytes source := by
    cases source with
    | standardInput _ alone => exact absurd alone given
    | file _ _ alone => exact absurd alone given

/-- A source that is read as a text makes a request readable, and no other source does. -/
theorem readable_iff_of_source {record : LogRecord} {bytes : List UInt8}
    (source : invocation.Source entry stdin record bytes) :
    invocation.Readable entry stdin ↔ Text.Utf8.WellFormed bytes := by
  refine ⟨fun readable => readable.text record bytes source, fun wellFormed => ?_⟩
  have text : ∀ other content, invocation.Source entry stdin other content →
      Text.Utf8.WellFormed content := by
    intro other content second
    rwa [← source.bytes_eq second]
  cases source with
  | standardInput noFile alone =>
    refine ⟨fun path given => ?_, .inl alone, text⟩
    exact absurd (noFile.symm.trans given) (by simp)
  | file given stands alone =>
    refine ⟨fun other same => ?_, .inl alone, text⟩
    obtain rfl := Option.some.inj (given.symm.trans same)
    exact ⟨bytes, stands⟩

/-- The request is served: standard error has nothing but the log. -/
structure Serves (invocation : Invocation) (entry : String → Entry) (stdin : List UInt8)
    (outcome : Outcome) : Prop where
  exit : outcome.exit = .success
  able : invocation.notice?.isSome ∨ invocation.Readable entry stdin
  quiet : invocation.verbose = false → outcome.stderr = ""

/-- The request is refused: nothing is printed but the message. -/
structure Refuses (invocation : Invocation) (entry : String → Entry) (stdin : List UInt8)
    (outcome : Outcome) : Prop where
  exit : outcome.exit = .invalidArguments
  silent : invocation.notice? = none
  unable : ¬invocation.Readable entry stdin
  unprinted : outcome.stdout = ""
  told : outcome.stderr ≠ ""

/-- A quiet request shows no log. -/
theorem shown_of_quiet (quiet : invocation.verbose = false) (log : List LogRecord) :
    invocation.shown log = "" := by
  rw [shown, quiet]
  rfl

/-- A request that is stopped says why. -/
theorem stopped_stderr_ne_empty (log : List LogRecord) (fault : Fault) :
    (invocation.stopped log fault).stderr ≠ "" := by
  intro empty
  obtain ⟨_, message⟩ := String.append_eq_empty_iff.1 empty
  obtain ⟨line, _⟩ := String.append_eq_empty_iff.1 message
  exact printed_ne_empty _ line

/-- However a request ends, it is served or refused. -/
theorem Ends.serves_or_refuses {outcome : Outcome} (ends : invocation.Ends entry stdin outcome) :
    invocation.Serves entry stdin outcome ∨ invocation.Refuses entry stdin outcome := by
  cases ends with
  | notice asked first => exact .inl ⟨rfl, .inl (by simp [first]), fun _ => rfl⟩
  | lexemes silent noFile given =>
    exact .inl ⟨rfl, .inr (readable_of_lexemes noFile given), fun quiet => shown_of_quiet quiet _⟩
  | words silent source decoded =>
    have wellFormed : Text.Utf8.WellFormed _ := ⟨_, Text.Utf8.decode_eq_ok_iff.1 decoded⟩
    have readable := (readable_iff_of_source source).2 wellFormed
    exact .inl ⟨rfl, .inr readable, fun quiet => shown_of_quiet quiet _⟩
  | malformed silent source decoded =>
    have unable := mt (readable_iff_of_source source).1
      (Text.Utf8.not_wellFormed_of_decode_error decoded)
    exact .inr ⟨rfl, silent, unable, rfl, stopped_stderr_ne_empty _ _⟩
  | noFile silent given stands =>
    refine .inr ⟨rfl, silent, fun readable => ?_, rfl, printedLines_append_ne_empty _ _⟩
    obtain ⟨content, file⟩ := readable.file _ given
    exact absurd (stands.symm.trans file) (by simp)
  | isDirectory silent given stands =>
    refine .inr ⟨rfl, silent, fun readable => ?_, rfl, printedLines_append_ne_empty _ _⟩
    obtain ⟨content, file⟩ := readable.file _ given
    exact absurd (stands.symm.trans file) (by simp)
  | conflict silent given stands both =>
    refine .inr ⟨rfl, silent, fun readable => ?_, rfl, stopped_stderr_ne_empty _ _⟩
    have noFile := readable.exclusive.resolve_left both
    exact absurd (noFile.symm.trans given) (by simp)

/-- A notice is asked for when it is among the items. -/
theorem ofItems_notice?_isSome_iff {items : List Item} :
    (ofItems items).notice?.isSome ↔ ∃ notice, .notice notice ∈ items := by
  rw [Option.isSome_iff_ne_none, ne_eq, ofItems_notice?_eq_none_iff, not_forall_not]

/-- The path that counts is among the items. -/
theorem mem_of_ofItems_file? {items : List Item} {path : String}
    (given : (ofItems items).file? = some path) : .file path ∈ items := by
  obtain ⟨item, listed, same⟩ := List.mem_filterMap.1 (List.mem_of_getLast? given)
  exact Item.file?_eq_some_iff.1 same ▸ listed

end Invocation

/-- A request without U+0000 in its path has an outcome. -/
theorem run_of_ofArguments {arguments : List String} {invocation : Invocation}
    (request : Invocation.ofArguments arguments = .ok invocation)
    (noNull : ∀ path, invocation.file? = some path → '\x00' ∉ path.toList)
    (entry : String → Entry) (stdin : List UInt8) :
    run arguments entry stdin = .ok (invocation.outcome entry stdin) := by
  have known : lookedUp? arguments = invocation.lookedUp? := by
    rw [lookedUp?, request]
    rfl
  have path : holdsNull arguments = false := by
    rw [holdsNull, known, Invocation.lookedUp?, Option.any_eq_false]
    intro path looked
    split at looked
    · contradiction
    · simpa using noNull path looked
  rw [run, path, outcome, request]
  rfl

/-- A command line that can be read and has no U+0000 in a path has the outcome of its request. -/
theorem run_of_readArguments {arguments : List String} {items : List Item}
    (read : readArguments arguments = .ok items)
    (noNull : ∀ path, .file path ∈ items → '\x00' ∉ path.toList) (entry : String → Entry)
    (stdin : List UInt8) :
    run arguments entry stdin = .ok ((Invocation.ofItems items).outcome entry stdin) :=
  run_of_ofArguments (Invocation.ofArguments_eq_ok_iff.2 ⟨items, read, rfl⟩)
    (fun path given => noNull path (Invocation.mem_of_ofItems_file? given)) entry stdin

/-- Arguments that cannot be read are refused. -/
theorem run_of_readArguments_error {arguments : List String} {error : ArgumentError}
    (unread : readArguments arguments = .error error) (entry : String → Entry)
    (stdin : List UInt8) :
    run arguments entry stdin = .ok (Refusal.arguments error).outcome := by
  have request : Invocation.ofArguments arguments = .error error := by
    rw [Invocation.ofArguments, unread]
    rfl
  rw [run, holdsNull, lookedUp?, outcome, request]
  rfl

/-- A run without U+0000 in a path succeeds or refuses its arguments. It succeeds exactly when the
arguments can be read and ask for a notice, or else for what can be read. A run that refuses prints
nothing and says why, and one that succeeds says nothing unless it is verbose. -/
theorem run_serves_or_refuses {arguments : List String}
    (noNull : ∀ items, readArguments arguments = .ok items →
      ∀ path, .file path ∈ items → '\x00' ∉ path.toList)
    (entry : String → Entry) (stdin : List UInt8) :
    ∃ outcome, run arguments entry stdin = .ok outcome ∧
      (outcome.exit.code = 0 ∨ outcome.exit.code = 2) ∧
      (outcome.exit.code = 0 ↔ ∃ items, readArguments arguments = .ok items ∧
        ((∃ notice, .notice notice ∈ items) ∨
          (Invocation.ofItems items).Readable entry stdin)) ∧
      (outcome.exit.code = 2 → outcome.stdout = "" ∧ outcome.stderr ≠ "") ∧
      (outcome.exit.code = 0 →
        (∀ items, readArguments arguments = .ok items → .switch .verbose ∉ items) →
        outcome.stderr = "") := by
  cases read : readArguments arguments with
  | error error =>
    have fails : (Refusal.arguments error).outcome.exit.code ≠ 0 := Nat.succ_ne_zero 1
    refine ⟨_, run_of_readArguments_error read entry stdin, .inr rfl, ?_, fun _ => ⟨rfl, ?_⟩, ?_⟩
    · exact iff_of_false fails (by simp)
    · exact printedLines_append_ne_empty _ _
    · exact fun succeeds => absurd succeeds fails
  | ok items =>
    have request : Invocation.ofArguments arguments = .ok (Invocation.ofItems items) := by
      rw [Invocation.ofArguments, read]
      rfl
    have path : ∀ path, (Invocation.ofItems items).file? = some path → '\x00' ∉ path.toList :=
      fun path given => noNull items read path (Invocation.mem_of_ofItems_file? given)
    refine ⟨_, run_of_ofArguments request path entry stdin, ?_⟩
    simp only [Except.ok.injEq, exists_eq_left', forall_eq',
      ← Invocation.ofItems_notice?_isSome_iff]
    obtain served | refused := (Invocation.ends (.ofItems items) entry stdin).serves_or_refuses
    · have code := congrArg Exit.code served.exit
      refine ⟨.inl code, iff_of_true code served.able, fun two => ?_, fun _ quiet => ?_⟩
      · exact absurd (code.symm.trans two) (by decide)
      · exact served.quiet (by simpa [Invocation.ofItems] using quiet)
    · have code := congrArg Exit.code refused.exit
      have zero : (Invocation.outcome (.ofItems items) entry stdin).exit.code ≠ 0 :=
        fun zero => absurd (code.symm.trans zero) (by decide)
      have unable : ¬((Invocation.ofItems items).notice?.isSome ∨
          (Invocation.ofItems items).Readable entry stdin) := by
        rw [refused.silent]
        simpa using refused.unable
      exact ⟨.inr code, iff_of_false zero unable, fun _ => ⟨refused.unprinted, refused.told⟩,
        fun succeeds => absurd succeeds zero⟩

/-- A file that is not text is refused, and a path without U+0000 is all that this needs. -/
theorem run_serves_or_refuses_malformed_file :
    (∀ items, readArguments ["-vf", "a"] = .ok items →
      ∀ path, .file path ∈ items → '\x00' ∉ path.toList) ∧
    ∃ outcome, run ["-vf", "a"] (fun _ => .file [0x78, 0xFF]) [] = .ok outcome ∧
      outcome.exit.code = 2 ∧ outcome.stdout = "" ∧ outcome.stderr ≠ "" := by
  have read : readArguments ["-vf", "a"] = .ok [.switch .verbose, .file "a"] :=
    readArguments_of_written (.withPath (.lettersPathDue [.verbose]) "a" .nothing)
  have noNull : ∀ items, readArguments ["-vf", "a"] = .ok items →
      ∀ path, .file path ∈ items → '\x00' ∉ path.toList := by
    intro items same path listed
    obtain rfl := Except.ok.inj (read.symm.trans same)
    obtain rfl : path = "a" := by simpa using listed
    decide
  obtain ⟨outcome, ran, code, served, refused, _⟩ :=
    run_serves_or_refuses noNull (fun _ => .file [0x78, 0xFF]) []
  have zero : outcome.exit.code ≠ 0 := by
    intro zero
    obtain ⟨items, same, asked⟩ := served.1 zero
    obtain rfl := Except.ok.inj (read.symm.trans same)
    obtain ⟨notice, listed⟩ | readable := asked
    · simp at listed
    · obtain ⟨text, encoded⟩ := readable.text _ _ (.file rfl rfl rfl)
      have decoded := Text.Utf8.decode_eq_ok_iff.2 encoded
      contradiction
  exact ⟨noNull, outcome, ran, code.resolve_left zero, refused (code.resolve_left zero)⟩

end Command

end Lexis
