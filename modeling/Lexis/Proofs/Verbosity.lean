import Lexis.Proofs.Switching

/-!
# What a verbose run adds

The log of a run is decided by how its request ends (`Invocation.Logs`): nothing is noted before a
source is read, the source is noted before it is decoded, and what was classified last. Whether the
log is shown has no part in anything else. The outcome of a request is the same at both verbosities
but for the lines of that log, which stand in front of the message (`Invocation.Ends.exists_logs`),
because no request ends in the one sort of fault that says more when it is verbose.
-/

namespace Lexis

/-- The message of a fault, which is the same at both verbosities. -/
def Fault.told (fault : Fault) : String := printed (lead fault.exit ++ fault.text)

/-- A fault that is not internal leaves its message and nothing more, however verbose the run. -/
theorem Fault.stderr_outcome {fault : Fault} (foreseen : trace fault.exit = "") (verbose : Bool) :
    (fault.outcome verbose).stderr = fault.told := by
  have silent : (if verbose then trace fault.exit else "") = "" := by rw [foreseen, ite_self]
  rw [outcome, silent, String.append_empty, told]

namespace Command

/-- The lines of a log, as a verbose run shows them. -/
def logLines (log : List LogRecord) : String :=
  String.join (log.map fun record => record.line ++ "\n")

namespace Invocation

variable {invocation : Invocation} {entry : String → Entry} {stdin : List UInt8}

/-- The record of how many units a request classifies, and how many tokens are illegal. -/
def countRecord (invocation : Invocation) (units : List String) : LogRecord :=
  .classified units.length ((classify invocation.options units).count .illegal)

/-- How a request ends, and what it notes on the way. -/
inductive Logs (invocation : Invocation) (entry : String → Entry) (stdin : List UInt8) :
    Exit → List LogRecord → Prop where
  | notice (asked : invocation.notice?.isSome) : Logs invocation entry stdin .success []
  /-- The path leads nowhere, or to a directory. -/
  | rejected {path : String} (silent : invocation.notice? = none)
      (given : invocation.file? = some path) (noFile : ∀ content, entry path ≠ .file content) :
    Logs invocation entry stdin .invalidArguments []
  | conflict {path : String} {content : List UInt8} (silent : invocation.notice? = none)
      (given : invocation.file? = some path) (stands : entry path = .file content)
      (both : invocation.lexemes ≠ []) :
    Logs invocation entry stdin .invalidArguments []
  | malformed {record : LogRecord} {bytes : List UInt8} (silent : invocation.notice? = none)
      (source : invocation.Source entry stdin record bytes)
      (malformed : ¬Text.Utf8.WellFormed bytes) :
    Logs invocation entry stdin .invalidArguments [record]
  | words {record : LogRecord} {text : List Char} (silent : invocation.notice? = none)
      (source : invocation.Source entry stdin record (Text.Utf8.encode text)) :
    Logs invocation entry stdin .success
      [record, invocation.countRecord ((Text.words text).map String.ofList)]
  | lexemes (silent : invocation.notice? = none) (noFile : invocation.file? = none)
      (given : invocation.lexemes ≠ []) :
    Logs invocation entry stdin .success [invocation.countRecord invocation.lexemes]

/-- The request at a verbosity. -/
def atVerbosity (invocation : Invocation) (verbose : Bool) : Invocation :=
  { invocation with verbose := verbose }

/-- A request is the one at its own verbosity. -/
theorem atVerbosity_of_verbose {verbose : Bool} (own : invocation.verbose = verbose) :
    invocation.atVerbosity verbose = invocation := by
  subst own
  rfl

theorem shown_atVerbosity (verbose : Bool) (log : List LogRecord) :
    (invocation.atVerbosity verbose).shown log = if verbose then logLines log else "" := rfl

/-- A source is read at every verbosity. -/
theorem Source.atVerbosity {record : LogRecord} {bytes : List UInt8}
    (source : invocation.Source entry stdin record bytes) (verbose : Bool) :
    (invocation.atVerbosity verbose).Source entry stdin record bytes :=
  source.congr rfl rfl

/-- What is classified is printed at every verbosity, and the log ends with the count. -/
theorem classified_atVerbosity (verbose : Bool) (log : List LogRecord) (units : List String) :
    (invocation.atVerbosity verbose).classified log units =
      ⟨.success, (invocation.classified log units).stdout,
        (if verbose then logLines (log ++ [invocation.countRecord units]) else "") ++ ""⟩ := by
  rw [String.append_empty]
  rfl

/-- A request that is stopped says why at every verbosity, behind the log. -/
theorem stopped_atVerbosity {fault : Fault} (foreseen : Fault.trace fault.exit = "")
    (verbose : Bool) (log : List LogRecord) :
    (invocation.atVerbosity verbose).stopped log fault =
      ⟨fault.exit, "", (if verbose then logLines log else "") ++ fault.told⟩ := by
  rw [← Fault.stderr_outcome foreseen verbose, ← shown_atVerbosity]
  rfl

/-- Every request ends in some way and has a log. -/
theorem Ends.exists_logs {outcome : Outcome} (ends : invocation.Ends entry stdin outcome) :
    ∃ exit log, invocation.Logs entry stdin exit log := by
  cases ends with
  | notice asked first => exact ⟨_, _, .notice (by simp [first])⟩
  | lexemes silent noFile given => exact ⟨_, _, .lexemes silent noFile given⟩
  | words silent source decoded =>
    rw [← Text.Utf8.decode_eq_ok_iff.1 decoded] at source
    exact ⟨_, _, .words silent source⟩
  | malformed silent source decoded =>
    exact ⟨_, _, .malformed silent source (Text.Utf8.not_wellFormed_of_decode_error decoded)⟩
  | noFile silent given stands => exact ⟨_, _, .rejected silent given (by simp [stands])⟩
  | isDirectory silent given stands => exact ⟨_, _, .rejected silent given (by simp [stands])⟩
  | conflict silent given stands both => exact ⟨_, _, .conflict silent given stands both⟩

/-- The log of a request decides what a verbosity changes: the lines of the log stand in front of a
message that is the same at both, and so are the exit and the answer. -/
theorem Logs.outcome_atVerbosity {exit : Exit} {log : List LogRecord}
    (logs : invocation.Logs entry stdin exit log) :
    ∃ stdout message, ∀ verbose, (invocation.atVerbosity verbose).outcome entry stdin =
      ⟨exit, stdout, (if verbose then logLines log else "") ++ message⟩ := by
  have unlogged (left : Outcome) (ended : left.exit = exit) (nothing : log = [])
      (same : ∀ verbose, (invocation.atVerbosity verbose).outcome entry stdin = left) :
      ∃ stdout message, ∀ verbose, (invocation.atVerbosity verbose).outcome entry stdin =
        ⟨exit, stdout, (if verbose then logLines log else "") ++ message⟩ := by
    refine ⟨left.stdout, left.stderr, fun verbose => ?_⟩
    have empty : (if verbose then logLines log else "") = "" := by
      rw [nothing]
      exact ite_self _
    rw [same, empty, String.empty_append, ← ended]
  cases logs with
  | notice asked =>
    obtain ⟨notice, first⟩ := Option.isSome_iff_exists.1 asked
    refine unlogged notice.outcome rfl rfl fun verbose => ?_
    simp only [outcome, atVerbosity, first]
  | @rejected path silent given noFile =>
    cases stands : entry path with
    | missing =>
      refine unlogged (Refusal.noFile path).outcome rfl rfl fun verbose => ?_
      simp only [outcome, atVerbosity, silent, given, stands]
    | directory =>
      refine unlogged (Refusal.isDirectory path).outcome rfl rfl fun verbose => ?_
      simp only [outcome, atVerbosity, silent, given, stands]
    | file content => exact absurd stands (noFile content)
  | conflict silent given stands both =>
    refine ⟨"", Invocation.conflict.told, fun verbose => ?_⟩
    have stops : (invocation.atVerbosity verbose).outcome entry stdin =
        (invocation.atVerbosity verbose).stopped [] Invocation.conflict := by
      simp only [outcome, atVerbosity, silent, given, stands, both, ↓reduceIte]
    exact stops.trans (stopped_atVerbosity rfl verbose [])
  | @malformed record bytes silent source malformed =>
    cases decoded : Text.Utf8.decode bytes with
    | ok text => exact absurd ⟨text, Text.Utf8.decode_eq_ok_iff.1 decoded⟩ malformed
    | error fault =>
      refine ⟨"", (Fault.malformed fault).told, fun verbose => ?_⟩
      have same : (invocation.atVerbosity verbose).notice? = none := silent
      rw [outcome_of_source same (source.atVerbosity verbose), read, decoded]
      exact stopped_atVerbosity rfl verbose [record]
  | @words record text silent source =>
    refine ⟨(invocation.classified [record] ((Text.words text).map String.ofList)).stdout, "",
      fun verbose => ?_⟩
    have same : (invocation.atVerbosity verbose).notice? = none := silent
    rw [outcome_of_source same (source.atVerbosity verbose), read, Text.Utf8.decode_encode]
    exact classified_atVerbosity verbose [record] _
  | lexemes silent noFile given =>
    refine ⟨(invocation.classified [] invocation.lexemes).stdout, "", fun verbose => ?_⟩
    have classifies : (invocation.atVerbosity verbose).outcome entry stdin =
        (invocation.atVerbosity verbose).classified [] invocation.lexemes :=
      outcome_of_lexemes silent noFile given
    exact classifies.trans (classified_atVerbosity verbose [] _)

end Invocation

/-- How a command line ends, and what it notes on the way: nothing where it cannot be read. -/
inductive Logs (arguments : List String) (entry : String → Entry) (stdin : List UInt8) :
    Exit → List LogRecord → Prop where
  | unread {error : ArgumentError} (unread : readArguments arguments = .error error) :
    Logs arguments entry stdin .invalidArguments []
  | request {items : List Item} {exit : Exit} {log : List LogRecord}
      (read : readArguments arguments = .ok items)
      (logs : (Invocation.ofItems items).Logs entry stdin exit log) :
    Logs arguments entry stdin exit log

/-- A run that is made verbose has the same exit and the same answer. If it is verbose already it is
the same altogether, and otherwise the lines of its log come in front of its message. -/
theorem verbose_run_prepends_log {arguments : List String}
    (noNull : ∀ items, readArguments arguments = .ok items →
      ∀ path, .file path ∈ items → '\x00' ∉ path.toList)
    (entry : String → Entry) (stdin : List UInt8) :
    ∃ plain verbose, run arguments entry stdin = .ok plain ∧
      run ("-v" :: arguments) entry stdin = .ok verbose ∧
      verbose.exit.code = plain.exit.code ∧ verbose.stdout = plain.stdout ∧
      ((∃ items, readArguments arguments = .ok items ∧ .switch .verbose ∈ items) →
        verbose.stderr = plain.stderr) ∧
      ((∀ items, readArguments arguments = .ok items → .switch .verbose ∉ items) →
        (∃ exit log, Logs arguments entry stdin exit log) ∧
        ∀ exit log, Logs arguments entry stdin exit log →
          plain.exit = exit ∧ verbose.stderr = logLines log ++ plain.stderr) := by
  have spells : Spells "-v" (.complete [.switch .verbose]) := Switch.spells_flag .verbose
  cases read : readArguments arguments with
  | error error =>
    have unread : readArguments ("-v" :: arguments) = .error error := by
      rw [readArguments_cons spells, read]
      rfl
    refine ⟨_, _, run_of_readArguments_error read entry stdin,
      run_of_readArguments_error unread entry stdin, rfl, rfl, fun _ => rfl, fun _ => ?_⟩
    refine ⟨⟨_, _, .unread read⟩, fun exit log logs => ?_⟩
    cases logs with
    | unread => exact ⟨rfl, String.empty_append.symm⟩
    | request other => exact absurd (read.symm.trans other) (by simp)
  | ok items =>
    have readLoud : readArguments ("-v" :: arguments) = .ok (.switch .verbose :: items) := by
      rw [readArguments_cons spells, read]
      rfl
    have noNullLoud : ∀ path, .file path ∈ Item.switch .verbose :: items → '\x00' ∉ path.toList :=
      fun path listed => noNull items read path (by simpa using listed)
    have loud : Invocation.ofItems (.switch .verbose :: items) =
        (Invocation.ofItems items).atVerbosity true :=
      Invocation.ofItems_cons_switch .verbose items
    have on : (Invocation.ofItems items).verbose = true ↔ .switch .verbose ∈ items := by
      simp [Invocation.ofItems]
    obtain ⟨exit, log, logs⟩ := (Invocation.ends (.ofItems items) entry stdin).exists_logs
    obtain ⟨stdout, message, outcomes⟩ := logs.outcome_atVerbosity
    have plain := outcomes (Invocation.ofItems items).verbose
    rw [Invocation.atVerbosity_of_verbose rfl] at plain
    refine ⟨_, _, run_of_readArguments read (noNull items read) entry stdin,
      run_of_readArguments readLoud noNullLoud entry stdin, ?_, ?_, ?_, ?_⟩
    · rw [loud, outcomes true, plain]
    · rw [loud, outcomes true, plain]
    · rintro ⟨_, ⟨⟩, switched⟩
      rw [loud, Invocation.atVerbosity_of_verbose (on.2 switched)]
    · intro quiet
      have off : (Invocation.ofItems items).verbose = false :=
        Bool.eq_false_iff.2 fun switched => quiet items rfl (on.1 switched)
      refine ⟨⟨exit, log, .request read logs⟩, fun exit log logs => ?_⟩
      cases logs with
      | unread other => exact absurd (read.symm.trans other) (by simp)
      | request other logs =>
        obtain rfl := Except.ok.inj (read.symm.trans other)
        obtain ⟨stdout, message, outcomes⟩ := logs.outcome_atVerbosity
        have plain := outcomes false
        rw [Invocation.atVerbosity_of_verbose off] at plain
        rw [loud, plain, outcomes true]
        simp

/-- A file that is not text is noted as read before it is refused, and nothing is counted. -/
theorem verbose_run_prepends_log_malformed_file :
    (∀ items, readArguments ["-f", "a"] = .ok items →
      ∀ path, .file path ∈ items → '\x00' ∉ path.toList) ∧
    ∃ plain verbose, run ["-f", "a"] (fun _ => .file [0x78, 0xFF]) [] = .ok plain ∧
      run ["-v", "-f", "a"] (fun _ => .file [0x78, 0xFF]) [] = .ok verbose ∧
      plain.exit.code = 2 ∧ verbose.stdout = plain.stdout ∧
      verbose.stderr = "DEBUG: Reading lexemes from a\n" ++ plain.stderr := by
  have read : readArguments ["-f", "a"] = .ok [.file "a"] :=
    readArguments_of_written (.withPath (.lettersPathDue []) "a" .nothing)
  have noNull : ∀ items, readArguments ["-f", "a"] = .ok items →
      ∀ path, .file path ∈ items → '\x00' ∉ path.toList := by
    intro items same path listed
    obtain rfl := Except.ok.inj (read.symm.trans same)
    obtain rfl : path = "a" := by simpa using listed
    decide
  have quiet : ∀ items, readArguments ["-f", "a"] = .ok items → .switch .verbose ∉ items := by
    intro items same
    obtain rfl := Except.ok.inj (read.symm.trans same)
    decide
  have malformed : ¬Text.Utf8.WellFormed [0x78, 0xFF] :=
    Text.Utf8.not_wellFormed_of_decode_error rfl
  have logs : Logs ["-f", "a"] (fun _ => .file [0x78, 0xFF]) [] .invalidArguments
      [.readingFile (Path.normal "a")] :=
    .request read (.malformed rfl (.file rfl rfl rfl) malformed)
  obtain ⟨plain, verbose, ran, ranVerbose, _, stdout, _, added⟩ :=
    verbose_run_prepends_log noNull (fun _ => .file [0x78, 0xFF]) []
  obtain ⟨exit, stderr⟩ := (added quiet).2 _ _ logs
  refine ⟨noNull, plain, verbose, ran, ranVerbose, congrArg Exit.code exit, stdout, ?_⟩
  have line : logLines [.readingFile (Path.normal "a")] = "DEBUG: Reading lexemes from a\n" := by
    decide
  rw [stderr, line]

end Command

end Lexis
