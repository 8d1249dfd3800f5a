import Lexis.Proofs.Languages
import Lexis.Proofs.Switching

/-!
# What the options change in a run

The options of a request reach the classification of its units and nothing else: a request that
classifies units does so behind the same log under all options (`Invocation.Classifies.exists_log`),
and one that is stopped is stopped alike (`Invocation.exists_outcome_withOptions`). So the end of
input that is asked for is one line more at the end of the answer, and not counted. A strict run
differs from a lenient one in the records of empty lexemes alone, and as the words of a text are
never empty, only a run on arguments can differ.
-/

namespace Lexis

namespace Options

/-- The options with the empty text illegal. -/
def strict (options : Options) : Options := { options with emptyIsIllegal := true }

/-- The options with the end of input asked for. -/
def closing (options : Options) : Options := { options with appendEof := true }

variable {options : Options}

/-- Under strict options the empty text is illegal, and every other unit has the token it had. -/
theorem token_strict (options : Options) (unit : String) :
    options.strict.token unit = if unit = "" then .illegal else options.token unit := by
  by_cases empty : unit = ""
  · subst empty
    rfl
  · have word (emptyIsIllegal : Bool) : Token.ofWord emptyIsIllegal unit =
        Token.ofWord options.emptyIsIllegal unit := by simp [Token.ofWord, empty]
    rw [if_neg empty, token, word, token]

/-- Strict options change nothing about units that are not empty. -/
theorem map_token_strict {units : List String} (filled : "" ∉ units) :
    units.map options.strict.token = units.map options.token := by
  refine List.map_congr_left fun unit listed => ?_
  rw [token_strict, if_neg]
  rintro rfl
  exact filled listed

/-- Under lenient options the empty text is an identifier. -/
theorem token_empty (lenient : options.emptyIsIllegal = false) :
    options.token "" = .identifier "" := by
  rw [token, lenient]
  rfl

/-- Strict options make as many more tokens illegal as there are empty units. -/
theorem count_illegal_strict (lenient : options.emptyIsIllegal = false) (units : List String) :
    (units.map options.strict.token).count .illegal =
      (units.map options.token).count .illegal + units.count "" := by
  have one (unit : String) : (if options.strict.token unit == .illegal then 1 else 0) =
      (if options.token unit == .illegal then 1 else 0) + if unit == "" then 1 else 0 := by
    rw [token_strict]
    by_cases empty : unit = ""
    · rw [if_pos empty, empty, token_empty lenient]
      rfl
    · simp [empty]
  induction units with
  | nil => rfl
  | cons unit units ih =>
    simp only [List.map_cons, List.count_cons, ih, one]
    omega

/-- The tokens of some units when the empty ones have a given token. -/
def tokensWithEmpty (options : Options) (empty : Token) (units : List String) : List Token :=
  (units.map fun unit => if unit = "" then empty else options.token unit) ++
    if options.appendEof = true ∧ units.getLast? ≠ some "\x00" then [.eof] else []

/-- Lenient options classify the empty units as identifiers. -/
theorem classify_lenient (lenient : options.emptyIsIllegal = false) (units : List String) :
    classify options units = options.tokensWithEmpty (.identifier "") units := by
  have token (unit : String) :
      options.token unit = if unit = "" then .identifier "" else options.token unit := by
    split
    · rename_i empty
      rw [empty, token_empty lenient]
    · rfl
  rw [classify_eq_map, tokensWithEmpty, ← funext token]

/-- Strict options change the tokens of the empty units alone. -/
theorem classify_strict (options : Options) (units : List String) :
    classify options.strict units = options.tokensWithEmpty .illegal units := by
  rw [classify_eq_map, tokensWithEmpty, ← funext (token_strict options)]
  rfl

/-- The end of input that is added is not counted as illegal. -/
theorem count_illegal_classify (options : Options) (units : List String) :
    (classify options units).count .illegal = (units.map options.token).count .illegal := by
  rw [classify_eq_map, List.count_append]
  split <;> rfl

/-- Where the end of input is not asked for, asking for it adds it behind units that do not end with
its spelling. -/
theorem classify_closing (unclosed : options.appendEof = false) (units : List String) :
    classify options.closing units = classify options units ++
      if units = [] ∨ units.getLast? ≠ some "\x00" then [.eof] else [] := by
  have last : units = [] ∨ units.getLast? ≠ some "\x00" ↔ units.getLast? ≠ some "\x00" := by
    refine or_iff_right_of_imp ?_
    rintro rfl
    exact Option.some_ne_none _ ∘ Eq.symm
  have token : options.closing.token = options.token := rfl
  rw [classify_eq_map, classify_of_not_appendEof unclosed, token]
  simp [closing, last]

end Options

theorem printedLines_append (first second : List String) :
    printedLines (first ++ second) = printedLines first ++ printedLines second := by
  simp [printedLines]

namespace Command

namespace Invocation

variable {invocation : Invocation} {entry : String → Entry} {stdin : List UInt8}

/-- The request with other options. -/
def withOptions (invocation : Invocation) (options : Options) : Invocation :=
  { invocation with options := options }

/-- The units that a request classifies: its lexemes, or the words of the text that its source
holds. -/
inductive Classifies (invocation : Invocation) (entry : String → Entry) (stdin : List UInt8) :
    List String → Prop where
  | lexemes (noFile : invocation.file? = none) (given : invocation.lexemes ≠ []) :
    Classifies invocation entry stdin invocation.lexemes
  | words {record : LogRecord} {text : List Char}
      (source : invocation.Source entry stdin record (Text.Utf8.encode text)) :
    Classifies invocation entry stdin ((Text.words text).map String.ofList)

/-- A request that classifies units does so under all options, and behind the same log. -/
theorem Classifies.exists_log {units : List String}
    (classifies : invocation.Classifies entry stdin units) (silent : invocation.notice? = none) :
    ∃ log, ∀ options, (invocation.withOptions options).outcome entry stdin =
      (invocation.withOptions options).classified log units := by
  cases classifies with
  | lexemes noFile given => exact ⟨[], fun options => outcome_of_lexemes silent noFile given⟩
  | @words record text source =>
    refine ⟨[record], fun options => ?_⟩
    have quiet : (invocation.withOptions options).notice? = none := silent
    have same : (invocation.withOptions options).Source entry stdin record
        (Text.Utf8.encode text) := source.congr rfl rfl
    rw [outcome_of_source quiet same, read, Text.Utf8.decode_encode]

/-- A request that reads a source has no lexemes. -/
theorem Source.lexemes_eq_nil {record : LogRecord} {bytes : List UInt8}
    (source : invocation.Source entry stdin record bytes) : invocation.lexemes = [] := by
  cases source with
  | standardInput noFile alone => exact alone
  | file given stands alone => exact alone

/-- A request classifies one list of units. -/
theorem Classifies.unique {units others : List String}
    (classifies : invocation.Classifies entry stdin units)
    (again : invocation.Classifies entry stdin others) : units = others := by
  cases classifies with
  | lexemes noFile given =>
    cases again with
    | lexemes => rfl
    | words source => exact absurd source.lexemes_eq_nil given
  | words source =>
    cases again with
    | lexemes noFile given => exact absurd source.lexemes_eq_nil given
    | words second =>
      have same := congrArg Text.Utf8.decode (source.bytes_eq second)
      rw [Text.Utf8.decode_encode, Text.Utf8.decode_encode] at same
      rw [Except.ok.inj same]

/-- Units that are not given as lexemes are not empty. -/
theorem Classifies.empty_not_mem {units : List String}
    (classifies : invocation.Classifies entry stdin units)
    (elsewhere : invocation.lexemes = [] ∨ invocation.file? ≠ none) : "" ∉ units := by
  cases classifies with
  | lexemes noFile given => exact absurd noFile (elsewhere.resolve_left given)
  | words source =>
    intro listed
    obtain ⟨word, split, empty⟩ := List.mem_map.1 listed
    exact (Text.ne_nil_and_not_blank_of_mem_words split).1 (String.ofList_eq_empty_iff.1 empty)

/-- A request that classifies nothing is refused, and alike under all options. -/
theorem exists_outcome_withOptions (silent : invocation.notice? = none)
    (nothing : ∀ units, ¬invocation.Classifies entry stdin units) :
    ∃ outcome, outcome.exit ≠ .success ∧
      ∀ options, (invocation.withOptions options).outcome entry stdin = outcome := by
  have ends := invocation.ends entry stdin
  generalize invocation.outcome entry stdin = left at ends
  -- What stops a request is found before its options are looked at, in each of these cases.
  cases ends with
  | notice asked first => exact absurd (silent.symm.trans first) (by simp)
  | lexemes _ noFile given => exact absurd (.lexemes noFile given) (nothing _)
  | words _ source decoded =>
    rw [← Text.Utf8.decode_eq_ok_iff.1 decoded] at source
    exact absurd (.words source) (nothing _)
  | @malformed record bytes fault _ source decoded =>
    refine ⟨invocation.stopped [record] (.malformed fault), Exit.noConfusion, fun options => ?_⟩
    have quiet : (invocation.withOptions options).notice? = none := silent
    have same : (invocation.withOptions options).Source entry stdin record bytes :=
      source.congr rfl rfl
    rw [outcome_of_source quiet same, read, decoded]
    rfl
  | @noFile path _ given stands =>
    refine ⟨(Refusal.noFile path).outcome, Exit.noConfusion, fun options => ?_⟩
    simp only [outcome, Invocation.withOptions, silent, given, stands]
  | @isDirectory path _ given stands =>
    refine ⟨(Refusal.isDirectory path).outcome, Exit.noConfusion, fun options => ?_⟩
    simp only [outcome, Invocation.withOptions, silent, given, stands]
  | conflict _ given stands both =>
    refine ⟨invocation.stopped [] Invocation.conflict, Exit.noConfusion, fun options => ?_⟩
    simp only [outcome, Invocation.withOptions, silent, given, stands, both, ↓reduceIte]
    rfl

/-- A request without a notice succeeds exactly when it classifies units. -/
theorem exit_eq_success_iff (silent : invocation.notice? = none) :
    (invocation.outcome entry stdin).exit = .success ↔
      ∃ units, invocation.Classifies entry stdin units := by
  constructor
  · intro success
    by_contra nothing
    obtain ⟨_, fails, same⟩ := exists_outcome_withOptions silent (not_exists.1 nothing)
    exact fails (same invocation.options ▸ success)
  · rintro ⟨units, classifies⟩
    obtain ⟨log, outcomes⟩ := classifies.exists_log silent
    exact congrArg Outcome.exit (outcomes invocation.options)

/-- The line of the end of input, as it is printed. -/
theorem printed_tokenLine_eof (invocation : Invocation) :
    printed (invocation.tokenLine .eof) =
      if invocation.typesOnly then "Eof\n" else "\x7btype: Eof, literal: \"\x00\"\x7d\n" := by
  unfold tokenLine
  split <;> decide

/-- What a request prints about some units under other options, and what it notes of them. -/
theorem classified_withOptions (options : Options) (log : List LogRecord) (units : List String) :
    (invocation.withOptions options).classified log units =
      ⟨.success, printedLines ((classify options units).map invocation.tokenLine),
        invocation.shown
          (log ++ [.classified units.length ((classify options units).count .illegal)])⟩ := rfl

/-- The end of input that is asked for is one more line of the answer, and nothing else. -/
theorem classified_closing (unclosed : invocation.options.appendEof = false) (log : List LogRecord)
    (units : List String) :
    (invocation.withOptions invocation.options.closing).classified log units =
      { invocation.classified log units with
        stdout := (invocation.classified log units).stdout ++
          if units = [] ∨ units.getLast? ≠ some "\x00" then printed (invocation.tokenLine .eof)
          else "" } := by
  have count : (classify invocation.options.closing units).count .illegal =
      (classify invocation.options units).count .illegal := by
    rw [Options.count_illegal_classify, Options.count_illegal_classify]
    rfl
  have lines : printedLines ((classify invocation.options.closing units).map invocation.tokenLine) =
      printedLines ((classify invocation.options units).map invocation.tokenLine) ++
        if units = [] ∨ units.getLast? ≠ some "\x00" then printed (invocation.tokenLine .eof)
        else "" := by
    rw [Options.classify_closing unclosed, List.map_append, printedLines_append]
    split <;> simp [printedLines]
  rw [classified_withOptions, count, lines]
  rfl

/-- Without empty units, strict options change nothing. -/
theorem classified_strict (log : List LogRecord) {units : List String} (filled : "" ∉ units) :
    (invocation.withOptions invocation.options.strict).classified log units =
      invocation.classified log units := by
  have tokens : classify invocation.options.strict units = classify invocation.options units := by
    rw [classify, classify, Options.map_token_strict filled]
    rfl
  rw [classified_withOptions, tokens]
  rfl

/-- Lenient options have the empty units printed as identifiers. -/
theorem classified_lenient_eq (lenient : invocation.options.emptyIsIllegal = false)
    (log : List LogRecord) (units : List String) :
    invocation.classified log units =
      ⟨.success, printedLines
          ((invocation.options.tokensWithEmpty (.identifier "") units).map invocation.tokenLine),
        invocation.shown (log ++ [.classified units.length
          ((classify invocation.options units).count .illegal)])⟩ := by
  rw [← Options.classify_lenient lenient]
  rfl

/-- Under strict options the empty units are printed as illegal tokens, and counted as such. -/
theorem classified_strict_eq (lenient : invocation.options.emptyIsIllegal = false)
    (log : List LogRecord) (units : List String) :
    (invocation.withOptions invocation.options.strict).classified log units =
      ⟨.success, printedLines
          ((invocation.options.tokensWithEmpty .illegal units).map invocation.tokenLine),
        invocation.shown (log ++ [.classified units.length
          ((classify invocation.options units).count .illegal + units.count "")])⟩ := by
  rw [classified_withOptions, Options.count_illegal_classify, Options.count_illegal_strict lenient,
    Options.count_illegal_classify, Options.classify_strict]

/-- Strict options change no outcome of a request whose units are not given as lexemes. -/
theorem outcome_strict (silent : invocation.notice? = none)
    (elsewhere : invocation.lexemes = [] ∨ invocation.file? ≠ none) :
    (invocation.withOptions invocation.options.strict).outcome entry stdin =
      invocation.outcome entry stdin := by
  by_cases success : ∃ units, invocation.Classifies entry stdin units
  · obtain ⟨units, classifies⟩ := success
    obtain ⟨log, outcomes⟩ := classifies.exists_log silent
    rw [outcomes, classified_strict log (classifies.empty_not_mem elsewhere)]
    exact (outcomes invocation.options).symm
  · obtain ⟨_, _, same⟩ := exists_outcome_withOptions silent (not_exists.1 success)
    exact (same _).trans (same invocation.options).symm

end Invocation

/-- The run has no outcome, or ends without success. -/
def Fails (ran : Except PathError Outcome) : Prop :=
  ∀ left, ran = .ok left → left.exit ≠ .success

section Request

variable {argument : String} {switch : Switch} {arguments : List String} {invocation : Invocation}
  {entry : String → Entry} {stdin : List UInt8}

/-- A run of a request that has an outcome has that of the request. -/
theorem eq_outcome_of_run {left : Outcome}
    (request : Invocation.ofArguments arguments = .ok invocation)
    (ran : run arguments entry stdin = .ok left) : left = invocation.outcome entry stdin := by
  rw [run, outcome, request] at ran
  split at ran
  · contradiction
  · exact (Except.ok.inj ran).symm

/-- A switch in front of a command line changes what a run leaves behind, not whether it does. -/
theorem run_cons_switch (spells : Spells argument (.complete [.switch switch]))
    (request : Invocation.ofArguments arguments = .ok invocation) (entry : String → Entry)
    (stdin : List UInt8) :
    run (argument :: arguments) entry stdin =
      (run arguments entry stdin).map fun _ =>
        (invocation.switchOn switch).outcome entry stdin := by
  have switched :
      Invocation.ofArguments (argument :: arguments) = .ok (invocation.switchOn switch) := by
    rw [Invocation.ofArguments_cons_switch spells, request]
    rfl
  have path : holdsNull (argument :: arguments) = holdsNull arguments := by
    rw [holdsNull, lookedUp?, switched, holdsNull, lookedUp?, request]
    simp [Except.toOption, Invocation.lookedUp?]
  rw [run, run, path, outcome, switched]
  split <;> rfl

/-- A switch that changes no outcome of its request changes no run. -/
theorem run_cons_switch_of_outcome_eq (spells : Spells argument (.complete [.switch switch]))
    (request : Invocation.ofArguments arguments = .ok invocation)
    (same : (invocation.switchOn switch).outcome entry stdin = invocation.outcome entry stdin) :
    run (argument :: arguments) entry stdin = run arguments entry stdin := by
  rw [run_cons_switch spells request, same]
  cases ran : run arguments entry stdin with
  | error error => rfl
  | ok left => exact congrArg Except.ok (eq_outcome_of_run request ran).symm

/-- A run that fails fails alike under other options. -/
theorem run_cons_switch_of_fails {options : Options}
    (spells : Spells argument (.complete [.switch switch]))
    (switched : invocation.switchOn switch = invocation.withOptions options)
    (request : Invocation.ofArguments arguments = .ok invocation)
    (silent : invocation.notice? = none) (fails : Fails (run arguments entry stdin)) :
    run (argument :: arguments) entry stdin = run arguments entry stdin := by
  cases ran : run arguments entry stdin with
  | error error =>
    rw [run_cons_switch spells request, ran]
    rfl
  | ok left =>
    obtain rfl := eq_outcome_of_run request ran
    have nothing : ¬∃ units, invocation.Classifies entry stdin units :=
      mt (Invocation.exit_eq_success_iff silent).2 (fails _ ran)
    obtain ⟨_, _, same⟩ := Invocation.exists_outcome_withOptions silent (not_exists.1 nothing)
    rw [← ran]
    refine run_cons_switch_of_outcome_eq spells request ?_
    rw [switched, same]
    exact (same invocation.options).symm

/-- The end of input that is asked for adds its line to the answer of a run that succeeds. -/
theorem run_eof {plain : Outcome} (request : Invocation.ofArguments arguments = .ok invocation)
    (silent : invocation.notice? = none) (unclosed : invocation.options.appendEof = false)
    (ran : run arguments entry stdin = .ok plain) {units : List String}
    (classifies : invocation.Classifies entry stdin units) :
    run ("--eof" :: arguments) entry stdin = .ok { plain with
      stdout := plain.stdout ++
        if units = [] ∨ units.getLast? ≠ some "\x00" then printed (invocation.tokenLine .eof)
        else "" } := by
  have spells : Spells "--eof" (.complete [.switch .appendEof]) := Switch.spells_flag .appendEof
  obtain ⟨log, outcomes⟩ := classifies.exists_log silent
  have classified : plain = invocation.classified log units :=
    (eq_outcome_of_run request ran).trans (outcomes invocation.options)
  have closed : (invocation.switchOn .appendEof).outcome entry stdin =
      (invocation.withOptions invocation.options.closing).classified log units := outcomes _
  rw [run_cons_switch spells request, ran, closed,
    Invocation.classified_closing unclosed, ← classified]
  rfl

/-- A run on arguments prints the empty ones as identifiers, and a strict one as illegal tokens. -/
theorem run_strictEmpty (request : Invocation.ofArguments arguments = .ok invocation)
    (silent : invocation.notice? = none) (lenient : invocation.options.emptyIsIllegal = false)
    (given : invocation.lexemes ≠ []) (noFile : invocation.file? = none) :
    let printedWith (empty : Token) := printedLines
      ((invocation.options.tokensWithEmpty empty invocation.lexemes).map invocation.tokenLine)
    let illegal := (classify invocation.options invocation.lexemes).count .illegal
    run arguments entry stdin = .ok ⟨.success, printedWith (.identifier ""),
      invocation.shown [.classified invocation.lexemes.length illegal]⟩ ∧
    run ("--strict-empty" :: arguments) entry stdin = .ok ⟨.success, printedWith .illegal,
      invocation.shown [.classified invocation.lexemes.length
        (illegal + invocation.lexemes.count "")]⟩ := by
  intro printedWith illegal
  have spells : Spells "--strict-empty" (.complete [.switch .strictEmpty]) :=
    Switch.spells_flag .strictEmpty
  have noNull : ∀ path, invocation.file? = some path → '\x00' ∉ path.toList := by
    simp [noFile]
  have ran := run_of_ofArguments request noNull entry stdin
  have strict : (invocation.switchOn .strictEmpty).outcome entry stdin =
      (invocation.withOptions invocation.options.strict).classified [] invocation.lexemes :=
    Invocation.outcome_of_lexemes silent noFile given
  constructor
  · rw [ran, Invocation.outcome_of_lexemes silent noFile given,
      Invocation.classified_lenient_eq lenient]
    rfl
  · rw [run_cons_switch spells request, ran, strict,
      Invocation.classified_strict_eq lenient]
    rfl

end Request

/-- What an end of input that is asked for changes in a run, and what a strict run changes. The
former adds its line behind the answer of a run that succeeds, unless the last unit is its spelling
already, and changes no run that fails. The latter changes no run that fails or reads a source; of
a run on arguments it changes the records of the empty ones, and how many are counted as illegal. -/
theorem eof_and_strictEmpty_reach_records_only {arguments : List String} {items : List Item}
    (read : readArguments arguments = .ok items) (silent : ∀ notice, .notice notice ∉ items)
    (entry : String → Entry) (stdin : List UInt8) :
    let request := Invocation.ofItems items
    (.switch .appendEof ∉ items →
      (Fails (run arguments entry stdin) →
        run ("--eof" :: arguments) entry stdin = run arguments entry stdin) ∧
      ∀ plain, run arguments entry stdin = .ok plain → plain.exit = .success →
        ∃ units, (∀ other, request.Classifies entry stdin other ↔ other = units) ∧
          run ("--eof" :: arguments) entry stdin = .ok { plain with
            stdout := plain.stdout ++
              if units = [] ∨ units.getLast? ≠ some "\x00" then
                if request.typesOnly then "Eof\n"
                else "\x7btype: Eof, literal: \"\x00\"\x7d\n"
              else "" }) ∧
    (.switch .strictEmpty ∉ items →
      (Fails (run arguments entry stdin) ∨ (∀ text, .lexeme text ∉ items) ∨
          (∃ path, .file path ∈ items) →
        run ("--strict-empty" :: arguments) entry stdin = run arguments entry stdin) ∧
      ((∃ text, .lexeme text ∈ items) → (∀ path, .file path ∉ items) →
        let printedWith (empty : Token) := printedLines
          ((request.options.tokensWithEmpty empty request.lexemes).map request.tokenLine)
        let illegal := (classify request.options request.lexemes).count .illegal
        run arguments entry stdin = .ok ⟨.success, printedWith (.identifier ""),
          request.shown [.classified request.lexemes.length illegal]⟩ ∧
        run ("--strict-empty" :: arguments) entry stdin = .ok ⟨.success, printedWith .illegal,
          request.shown [.classified request.lexemes.length
            (illegal + request.lexemes.count "")]⟩)) := by
  intro request
  have asks : Invocation.ofArguments arguments = .ok request :=
    Invocation.ofArguments_eq_ok_iff.2 ⟨items, read, rfl⟩
  have noNotice : request.notice? = none := Invocation.ofItems_notice?_eq_none_iff.2 silent
  refine ⟨fun off => ⟨fun fails => ?_, fun plain ran success => ?_⟩,
    fun off => ⟨?_, fun given noFile => ?_⟩⟩
  · exact run_cons_switch_of_fails (Switch.spells_flag .appendEof) rfl asks noNotice fails
  · rw [eq_outcome_of_run asks ran, Invocation.exit_eq_success_iff noNotice] at success
    obtain ⟨units, classifies⟩ := success
    have unclosed : request.options.appendEof = false := by
      simpa [request, Invocation.ofItems] using off
    refine ⟨units, fun other => ⟨fun again => again.unique classifies, ?_⟩, ?_⟩
    · rintro rfl
      exact classifies
    · rw [run_eof asks noNotice unclosed ran classifies, Invocation.printed_tokenLine_eof]
  · rintro (fails | elsewhere)
    · exact run_cons_switch_of_fails (Switch.spells_flag .strictEmpty) rfl asks noNotice fails
    · have unlisted : request.lexemes = [] ∨ request.file? ≠ none := by
        rw [ne_eq, Invocation.ofItems_lexemes_eq_nil_iff, Invocation.ofItems_file?_eq_none_iff,
          not_forall_not]
        exact elsewhere
      exact run_cons_switch_of_outcome_eq (Switch.spells_flag .strictEmpty) asks
        (Invocation.outcome_strict noNotice unlisted)
  · have lenient : request.options.emptyIsIllegal = false := by
      simpa [request, Invocation.ofItems] using off
    refine run_strictEmpty asks noNotice lenient ?_ (Invocation.ofItems_file?_eq_none_iff.2 noFile)
    rwa [ne_eq, Invocation.ofItems_lexemes_eq_nil_iff, not_forall_not]

/-- An empty lexeme before an unknown symbol, and a path that leads nowhere. -/
theorem eof_and_strictEmpty_reach_records_only_empty_lexeme :
    let arguments := ["-tv", "--", "", "@"]
    let entry := fun _ => Entry.missing
    run arguments entry [] = .ok ⟨.success, "Identifier\nIllegal\n",
      "DEBUG: Classified 2 lexemes (1 illegal)\n"⟩ ∧
    run ("--eof" :: arguments) entry [] = .ok ⟨.success, "Identifier\nIllegal\nEof\n",
      "DEBUG: Classified 2 lexemes (1 illegal)\n"⟩ ∧
    run ("--strict-empty" :: arguments) entry [] = .ok ⟨.success, "Illegal\nIllegal\n",
      "DEBUG: Classified 2 lexemes (2 illegal)\n"⟩ ∧
    run ("--eof" :: ["-f", "a"]) entry [] = run ["-f", "a"] entry [] ∧
    run ("--strict-empty" :: ["-f", "a"]) entry [] = run ["-f", "a"] entry [] := by
  intro arguments entry
  have read : readArguments arguments =
      .ok [.switch .typesOnly, .switch .verbose, .lexeme "", .lexeme "@"] :=
    readArguments_of_written (.complete (.letters [.typesOnly, .verbose] (by decide))
      (.onlyLexemes ["", "@"]))
  have readFile : readArguments ["-f", "a"] = .ok [.file "a"] :=
    readArguments_of_written (.withPath (.lettersPathDue []) "a" .nothing)
  obtain ⟨closing, strict⟩ := eof_and_strictEmpty_reach_records_only read (by simp) entry []
  obtain ⟨closingFile, strictFile⟩ :=
    eof_and_strictEmpty_reach_records_only readFile (by simp) entry []
  obtain ⟨plain, strict⟩ := (strict (by simp)).2 ⟨"", by simp⟩ (by simp)
  obtain ⟨units, unique, closed⟩ := (closing (by simp)).2 _ plain rfl
  have given : units = ["", "@"] := ((unique _).1 (.lexemes rfl (by decide))).symm
  have fails : Fails (run ["-f", "a"] entry []) := by
    rintro left ran
    obtain rfl := eq_outcome_of_run (Invocation.ofArguments_eq_ok_iff.2 ⟨_, readFile, rfl⟩) ran
    decide
  rw [given] at closed
  exact ⟨plain, closed, strict, (closingFile (by simp)).1 fails,
    (strictFile (by simp)).1 (.inl fails)⟩

end Command

end Lexis
