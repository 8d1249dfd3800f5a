import Lexis.Proofs.Endings
import Lexis.Proofs.NormalForm
import Lexis.Proofs.Spacing

/-!
# Where lexemes come from

Lexemes are given as arguments, on standard input or in a file. Along each of these ways a run comes
to the same classification of the same lexemes: arguments behind a double hyphen are taken as they
are (`run_lexemes`), and a text that the lexemes are laid out in is read back as these lexemes
whatever blanks stand between them (`run_standardInput`, `run_file`). So the three runs print the
same, and only the log of a verbose one says where its lexemes come from.
-/

namespace Lexis.Command

/-- The shortest option of a switch. -/
def Switch.flag : Switch → String
  | .strictEmpty => "--strict-empty"
  | .appendEof => "--eof"
  | .typesOnly => "-t"
  | .verbose => "-v"

theorem Switch.spells_flag (switch : Switch) :
    Spells switch.flag (.complete [.switch switch]) := by
  cases switch with
  | strictEmpty => exact .switch .strictEmpty
  | appendEof => exact .switch .appendEof
  | typesOnly => exact .letters [.typesOnly] (by decide)
  | verbose => exact .letters [.verbose] (by decide)

/-- What is printed about some lexemes when some switches are on. -/
def answer (switches : List Switch) (lexemes : List String) : String :=
  printedLines ((classify (optionsOf switches) lexemes).map fun token =>
    if switches.contains .typesOnly then token.typeName else token.render)

/-- The record of a classification, which ends the log. -/
def countRecord (switches : List Switch) (lexemes : List String) : LogRecord :=
  .classified lexemes.length ((classify (optionsOf switches) lexemes).count .illegal)

/-- The log of a run, which is shown when the run is verbose. -/
def logText (switches : List Switch) (records : List LogRecord) : String :=
  if switches.contains .verbose then
    String.join (records.map fun record => record.line ++ "\n")
  else ""

/-- A classification leaves behind the answer and the log. -/
theorem Invocation.classified_ofParts (switches : List Switch) (path? : Option String)
    (given lexemes : List String) (log : List LogRecord) :
    (Invocation.ofParts switches path? given).classified log lexemes =
      ⟨.success, answer switches lexemes,
        logText switches (log ++ [countRecord switches lexemes])⟩ := rfl

/-- The outcome of a command line that is written for some switches, a path and some lexemes. -/
theorem run_of_written {arguments lexemes : List String} {switches : List Switch}
    {path? : Option String} (written : Written arguments (itemsOf switches path? lexemes))
    (noNull : ∀ path, path? = some path → '\x00' ∉ path.toList) (entry : String → Entry)
    (stdin : List UInt8) :
    run arguments entry stdin =
      .ok ((Invocation.ofParts switches path? lexemes).outcome entry stdin) := by
  refine run_of_ofArguments ?_ noNull entry stdin
  rw [ofArguments_of_written written, ofItems_itemsOf]

/-- Arguments behind a double hyphen are classified. -/
theorem run_lexemes (switches : List Switch) {lexemes : List String} (given : lexemes ≠ [])
    (entry : String → Entry) (stdin : List UInt8) :
    run (switches.map Switch.flag ++ "--" :: lexemes) entry stdin =
      .ok ⟨.success, answer switches lexemes,
        logText switches [countRecord switches lexemes]⟩ := by
  have written : Written (switches.map Switch.flag ++ "--" :: lexemes)
      (itemsOf switches none lexemes) :=
    .switches Switch.spells_flag (.onlyLexemes lexemes) switches
  rw [run_of_written written (by simp), Invocation.outcome_of_lexemes rfl rfl given,
    Invocation.classified_ofParts]
  rfl

variable {lexemes : List String} {text : List Char}

/-- The bytes of a text that lexemes are laid out in are classified as those lexemes. -/
theorem Invocation.read_encode (spaced : Text.Spaced lexemes text)
    (whole : ∀ lexeme ∈ lexemes, Text.IsWord lexeme) (invocation : Invocation)
    (source : LogRecord) :
    invocation.read source (Text.Utf8.encode text) = invocation.classified [source] lexemes := by
  simp only [read, Text.Utf8.decode_encode, Text.words_of_spaced spaced whole]

/-- A text on standard input is classified as the lexemes that are laid out in it. -/
theorem run_standardInput (spaced : Text.Spaced lexemes text)
    (whole : ∀ lexeme ∈ lexemes, Text.IsWord lexeme) (switches : List Switch)
    (entry : String → Entry) :
    run (switches.map Switch.flag) entry (Text.Utf8.encode text) =
      .ok ⟨.success, answer switches lexemes,
        logText switches [.readingStandardInput, countRecord switches lexemes]⟩ := by
  have written : Written (switches.map Switch.flag) (itemsOf switches none []) := by
    have line := Written.switches Switch.spells_flag .nothing switches
    rwa [List.append_nil] at line
  have source : (Invocation.ofParts switches none []).Source entry (Text.Utf8.encode text)
      .readingStandardInput (Text.Utf8.encode text) := .standardInput rfl rfl
  rw [run_of_written written (by simp), Invocation.outcome_of_source rfl source,
    Invocation.read_encode spaced whole, Invocation.classified_ofParts]
  rfl

/-- A text in a file is classified as the lexemes that are laid out in it. -/
theorem run_file (spaced : Text.Spaced lexemes text)
    (whole : ∀ lexeme ∈ lexemes, Text.IsWord lexeme) (switches : List Switch)
    {entry : String → Entry} {path : String} (stands : entry path = .file (Text.Utf8.encode text))
    (noNull : '\x00' ∉ path.toList) (stdin : List UInt8) :
    run (switches.map Switch.flag ++ ["-f", path]) entry stdin =
      .ok ⟨.success, answer switches lexemes,
        logText switches [.readingFile (Path.normal path), countRecord switches lexemes]⟩ := by
  have written : Written (switches.map Switch.flag ++ ["-f", path])
      (itemsOf switches (some path) []) :=
    .switches Switch.spells_flag (.withPath (.lettersPathDue []) path .nothing) switches
  have source : (Invocation.ofParts switches (some path) []).Source entry stdin
      (.readingFile (Path.normal path)) (Text.Utf8.encode text) := .file rfl stands rfl
  have null : ∀ other, some path = some other → '\x00' ∉ other.toList := by
    rintro other ⟨⟩
    exact noNull
  rw [run_of_written written null, Invocation.outcome_of_source rfl source,
    Invocation.read_encode spaced whole, Invocation.classified_ofParts]
  rfl

/-- A verbose run classifies as the quiet one does. -/
theorem optionsOf_verbose (front back : List Switch) :
    optionsOf (front ++ .verbose :: back) = optionsOf (front ++ back) := by
  simp [optionsOf]

/-- A verbose run prints what the quiet one does. -/
theorem answer_verbose (front back : List Switch) (lexemes : List String) :
    answer (front ++ .verbose :: back) lexemes = answer (front ++ back) lexemes := by
  have types : (front ++ .verbose :: back).contains .typesOnly =
      (front ++ back).contains .typesOnly := by simp
  simp only [answer, optionsOf_verbose, types]

/-- A quiet run shows no log. -/
theorem logText_of_quiet {switches : List Switch} (quiet : .verbose ∉ switches)
    (records : List LogRecord) : logText switches records = "" := by
  have off : switches.contains .verbose = false := by simpa using quiet
  rw [logText, off]
  rfl

theorem line_readingStandardInput :
    LogRecord.readingStandardInput.line ++ "\n" = "DEBUG: Reading lexemes from stdin\n" := by
  have line : LogRecord.readingStandardInput.line = "DEBUG: " ++ "Reading lexemes from stdin" := rfl
  have joined : "DEBUG: " ++ "Reading lexemes from stdin" ++ "\n" =
      "DEBUG: Reading lexemes from stdin\n" := rfl
  exact line ▸ joined

theorem line_readingFile (path : String) :
    (LogRecord.readingFile path).line = "DEBUG: Reading lexemes from " ++ path := by
  have line : (LogRecord.readingFile path).line =
      "DEBUG: " ++ ("Reading lexemes from " ++ path) := rfl
  have joined : "DEBUG: " ++ "Reading lexemes from " = "DEBUG: Reading lexemes from " := rfl
  rw [line, ← String.append_assoc, joined]

/-- Lexemes as arguments, on standard input and in a file are the same run: it succeeds, prints the
same answer and says nothing. A verbose run prints that answer too, and of its log only the record
of where the lexemes are read from depends on the source. -/
theorem sources_agree {lexemes : List String} {text : List Char} {entry : String → Entry}
    {path : String} (given : lexemes ≠ []) (whole : ∀ lexeme ∈ lexemes, Text.IsWord lexeme)
    (spaced : Text.Spaced lexemes text) (stands : entry path = .file (Text.Utf8.encode text))
    (noNull : '\x00' ∉ path.toList) (front back : List Switch)
    (quiet : .verbose ∉ front ++ back) (stdin : List UInt8) :
    let flags := (front ++ back).map Switch.flag
    let loud := (front ++ .verbose :: back).map Switch.flag
    let bytes := Text.Utf8.encode text
    let stdout := answer (front ++ back) lexemes
    let count := (countRecord (front ++ back) lexemes).line ++ "\n"
    (run (flags ++ "--" :: lexemes) entry stdin = .ok ⟨.success, stdout, ""⟩ ∧
      run flags entry bytes = .ok ⟨.success, stdout, ""⟩ ∧
      run (flags ++ ["-f", path]) entry stdin = .ok ⟨.success, stdout, ""⟩) ∧
    run (loud ++ "--" :: lexemes) entry stdin = .ok ⟨.success, stdout, count⟩ ∧
    run loud entry bytes =
      .ok ⟨.success, stdout, "DEBUG: Reading lexemes from stdin\n" ++ count⟩ ∧
    run (loud ++ ["-f", path]) entry stdin =
      .ok ⟨.success, stdout,
        "DEBUG: Reading lexemes from " ++ Path.normal path ++ "\n" ++ count⟩ := by
  intro flags loud bytes stdout count
  have silent := logText_of_quiet quiet
  have shown (records : List LogRecord) : logText (front ++ .verbose :: back) records =
      String.join (records.map fun record => record.line ++ "\n") := by
    have on : (front ++ .verbose :: back).contains .verbose = true := by simp
    rw [logText, if_pos on]
  have last (line : String) : String.join [line] = line := by simp
  have answers : answer (front ++ .verbose :: back) lexemes = stdout :=
    answer_verbose front back lexemes
  have counted : countRecord (front ++ .verbose :: back) lexemes =
      countRecord (front ++ back) lexemes := by
    rw [countRecord, optionsOf_verbose, countRecord]
  refine ⟨⟨?_, ?_, ?_⟩, ?_, ?_, ?_⟩
  · rw [run_lexemes _ given, silent]
  · rw [run_standardInput spaced whole, silent]
  · rw [run_file spaced whole _ stands noNull, silent]
  · rw [run_lexemes _ given, answers, counted, shown, List.map_singleton, last]
  · rw [run_standardInput spaced whole, answers, counted, shown, List.map_cons,
      List.map_singleton, String.join_cons, last, line_readingStandardInput]
  · rw [run_file spaced whole _ stands noNull, answers, counted, shown, List.map_cons,
      List.map_singleton, String.join_cons, last, line_readingFile]

/-- Lexemes that look like options, with various blanks around them, and a path that does too. -/
theorem sources_agree_options_as_lexemes :
    let text := "\t-t\u3000 --\n-".toList
    let entry := fun _ => Entry.file (Text.Utf8.encode text)
    Text.Spaced ["-t", "--", "-"] text ∧ (∀ lexeme ∈ ["-t", "--", "-"], Text.IsWord lexeme) ∧
    run ["--eof", "--", "-t", "--", "-"] entry [] =
      run ["--eof"] entry (Text.Utf8.encode text) ∧
    run ["--eof", "-f", "--"] entry [] = run ["--eof"] entry (Text.Utf8.encode text) := by
  intro text entry
  have laidOut : text = ['\t'] ++ "-t".toList ++ ['\u3000', ' '] ++
      ([] ++ "--".toList ++ ['\n'] ++ ([] ++ "-".toList ++ [] ++ [])) := by decide
  have spaced : Text.Spaced ["-t", "--", "-"] text := by
    rw [laidOut]
    refine .word ?_ ?_ (by simp) (.word ?_ ?_ (by simp) (.word ?_ ?_ (by simp) (.none ?_))) <;>
      decide
  have whole : ∀ lexeme ∈ ["-t", "--", "-"], Text.IsWord lexeme := by decide
  have stands : entry "--" = .file (Text.Utf8.encode text) := rfl
  obtain ⟨⟨arguments, standardInput, file⟩, -⟩ :=
    sources_agree (by decide) whole spaced stands (by decide) [.appendEof] [] (by decide) []
  exact ⟨spaced, whole, arguments.trans standardInput.symm, file.trans standardInput.symm⟩

end Lexis.Command
