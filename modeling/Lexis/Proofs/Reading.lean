import Lexis.Proofs.Reclassification
import Lexis.Proofs.Switching

/-!
# Tokens read from a text

A text has the tokens of its words (`Options.tokensOf`). A word is never empty, so the only token of
a text without a literal is the illegal one, and every other token is classified again as itself by
its literal (`Options.literal_of_mem_tokensOf`). So the literals of the tokens of a text, laid out
with blanks between them, are a text with the same tokens, the illegal ones left out
(`Options.tokensOf_of_spaced`), and reading it anew changes nothing more.
-/

namespace Lexis

namespace Options

/-- The tokens of a text: those of its words. -/
def tokensOf (options : Options) (text : List Char) : List Token :=
  classify options ((Text.words text).map String.ofList)

variable {options : Options} {text : List Char} {token : Token}

/-- A token of a text is that of one of its words, or the end of input. -/
theorem exists_word_of_mem_tokensOf (listed : token ∈ options.tokensOf text) :
    ∃ unit, (unit.toList ∈ Text.words text ∨ unit = Token.eof.literal) ∧
      options.token unit = token := by
  obtain ⟨unit, origin, classified⟩ := mem_classify listed
  refine ⟨unit, origin.imp_left fun within => ?_, classified⟩
  obtain ⟨word, member, rfl⟩ := List.mem_map.1 within
  rwa [String.toList_ofList]

/-- The literal of a token of a text is one of its words or the end of input, unless the token is
illegal, and it is classified as that token. -/
theorem literal_of_mem_tokensOf (listed : token ∈ options.tokensOf text)
    (visible : token ≠ .illegal) :
    (token.literal.toList ∈ Text.words text ∨ token.literal = Token.eof.literal) ∧
      options.token token.literal = token := by
  obtain ⟨unit, origin, rfl⟩ := exists_word_of_mem_tokensOf listed
  have legal : ¬options.isIllegal unit = true := mt token_eq_illegal_iff.2 visible
  have literal : (options.token unit).literal = unit := by rw [literal_token, if_neg legal]
  rw [literal]
  exact ⟨origin, rfl⟩

/-- The literal of a token of a text is a word, unless the token is illegal. -/
theorem isWord_literal_of_mem_tokensOf (listed : token ∈ options.tokensOf text)
    (visible : token ≠ .illegal) : Text.IsWord token.literal := by
  rcases (literal_of_mem_tokensOf listed visible).1 with within | last
  · obtain ⟨filled, plain⟩ := Text.ne_nil_and_not_blank_of_mem_words within
    exact ⟨mt String.toList_eq_nil_iff.2 filled, plain⟩
  · rw [last]
    decide

/-- A token of a text has no literal exactly when it is illegal. -/
theorem literal_ne_empty_iff (listed : token ∈ options.tokensOf text) :
    (token.literal != "") = (token != .illegal) := by
  by_cases illegal : token = .illegal
  · subst illegal
    rfl
  · have filled := (isWord_literal_of_mem_tokensOf listed illegal).1
    rw [bne_iff_ne.2 filled, bne_iff_ne.2 illegal]

/-- There is no blank in the literal of a token of a text. -/
theorem not_blank_of_mem_literal (listed : token ∈ options.tokensOf text) :
    ∀ character ∈ token.literal.toList, Text.isBlank character = false := by
  by_cases illegal : token = .illegal
  · subst illegal
    intro character within
    contradiction
  · exact (isWord_literal_of_mem_tokensOf listed illegal).2

/-- Without its illegal tokens a text still ends with the end of input where that is asked for. -/
theorem close_filter_tokensOf (options : Options) (text : List Char) :
    options.close ((options.tokensOf text).filter (· != .illegal)) =
      (options.tokensOf text).filter (· != .illegal) := by
  have closed : options.close (options.tokensOf text) = options.tokensOf text :=
    options.close_close _
  rw [close_eq_self_iff] at closed ⊢
  refine closed.imp_right fun last => ?_
  obtain ⟨front, ends⟩ := List.getLast?_eq_some_iff.1 last
  rw [ends, List.filter_append]
  exact List.getLast?_concat

/-- The literals of the tokens of a text, laid out in another text, have those tokens again, except
for the illegal ones. -/
theorem tokensOf_of_spaced {again : List Char}
    (spaced : Text.Spaced ((options.tokensOf text).map Token.literal) again) :
    options.tokensOf again = (options.tokensOf text).filter (· != .illegal) := by
  have plain : ∀ word ∈ (options.tokensOf text).map Token.literal,
      ∀ character ∈ word.toList, Text.isBlank character = false := by
    intro word member
    obtain ⟨token, listed, rfl⟩ := List.mem_map.1 member
    exact not_blank_of_mem_literal listed
  have literals : (Text.words again).map String.ofList =
      ((options.tokensOf text).filter (· != .illegal)).map Token.literal := by
    rw [Text.words_of_spaced_of_plain spaced plain, List.filter_map]
    exact congrArg _ (List.filter_congr fun token listed => literal_ne_empty_iff listed)
  have classified : ((options.tokensOf text).filter (· != .illegal)).map
      (options.token ∘ Token.literal) = (options.tokensOf text).filter (· != .illegal) := by
    conv_rhs => rw [← List.map_id ((options.tokensOf text).filter (· != .illegal))]
    refine List.map_congr_left fun token kept => ?_
    obtain ⟨listed, visible⟩ := List.mem_filter.1 kept
    exact (literal_of_mem_tokensOf listed (bne_iff_ne.1 visible)).2
  rw [tokensOf, literals, classify, List.map_map, classified, close_filter_tokensOf]

end Options

namespace Command

/-- A command line asks for the tokens of a text: no notice is among its items, and the source that
its request reads, standard input or a file, has the bytes of that text. -/
structure ReadsText (arguments : List String) (entry : String → Entry) (stdin : List UInt8)
    (invocation : Invocation) (text : List Char) : Prop where
  request : Invocation.ofArguments arguments = .ok invocation
  silent : invocation.notice? = none
  source : ∃ record, invocation.Source entry stdin record (Text.Utf8.encode text)
  noNull : ∀ path, invocation.file? = some path → '\x00' ∉ path.toList

variable {arguments : List String} {entry : String → Entry} {stdin : List UInt8}
  {invocation : Invocation} {text : List Char}

/-- A run that reads a text prints its tokens. -/
theorem ReadsText.exists_run (reads : ReadsText arguments entry stdin invocation text) :
    ∃ log, run arguments entry stdin =
      .ok ⟨.success,
        printedLines ((invocation.options.tokensOf text).map invocation.tokenLine),
        invocation.shown log⟩ := by
  obtain ⟨request, silent, ⟨record, source⟩, noNull⟩ := reads
  rw [run_of_ofArguments request noNull, Invocation.outcome_of_source silent source,
    Invocation.read, Text.Utf8.decode_encode]
  exact ⟨_, rfl⟩

/-- A run reads the same text with a switch in front. -/
theorem ReadsText.cons (reads : ReadsText arguments entry stdin invocation text)
    {argument : String} {switch : Switch} (spells : Spells argument (.complete [.switch switch])) :
    ReadsText (argument :: arguments) entry stdin (invocation.switchOn switch) text where
  request := by
    rw [Invocation.ofArguments_cons_switch spells, reads.request]
    rfl
  silent := by rw [Invocation.switchOn_notice?, reads.silent]
  source := reads.source.imp fun _ source => source.switchOn switch
  noNull path given := reads.noNull path (by rwa [Invocation.switchOn_file?] at given)

/-- A command line that is written for switches and at most a path reads its source. -/
theorem readsText_of_written {switches : List Switch} {path? : Option String}
    {record : LogRecord} (written : Written arguments (itemsOf switches path? []))
    (source : (Invocation.ofParts switches path? []).Source entry stdin record
      (Text.Utf8.encode text))
    (noNull : ∀ path, path? = some path → '\x00' ∉ path.toList) :
    ReadsText arguments entry stdin (.ofParts switches path? []) text where
  request := by rw [ofArguments_of_written written, ofItems_itemsOf]
  silent := rfl
  source := ⟨record, source⟩
  noNull := noNull

/-- With switches alone a run reads standard input. -/
theorem readsText_standardInput (switches : List Switch) (entry : String → Entry)
    (text : List Char) :
    ReadsText (switches.map Switch.flag) entry (Text.Utf8.encode text)
      (.ofParts switches none []) text := by
  have written := Written.switches Switch.spells_flag .nothing switches
  rw [List.append_nil] at written
  exact readsText_of_written written (.standardInput rfl rfl) (by simp)

/-- Tokens as a run prints them when some switches are on. -/
def printedTokens (switches : List Switch) (tokens : List Token) : String :=
  printedLines (tokens.map fun token =>
    if switches.contains .typesOnly then token.typeName else token.render)

/-- A text on standard input has its tokens printed, and a quiet run says nothing else. -/
theorem run_text {switches : List Switch} (quiet : .verbose ∉ switches) (entry : String → Entry)
    (text : List Char) :
    run (switches.map Switch.flag) entry (Text.Utf8.encode text) =
      .ok ⟨.success, printedTokens switches ((optionsOf switches).tokensOf text), ""⟩ := by
  obtain ⟨log, ran⟩ := (readsText_standardInput switches entry text).exists_run
  have off : switches.contains .verbose = false := by simpa using quiet
  rw [ran, Invocation.shown_of_quiet off]
  rfl

/-- The literals of the tokens of a text, laid out with blanks between them, are a text with the
same tokens, except for the illegal ones. So its run is the same where no token is illegal, and a
text that is laid out from its tokens in turn has the same run whatever the first one was. -/
theorem literals_read_back {switches : List Switch} (quiet : .verbose ∉ switches)
    {text again : List Char}
    (spaced : Text.Spaced (((optionsOf switches).tokensOf text).map Token.literal) again)
    (entry : String → Entry) :
    let tokens := (optionsOf switches).tokensOf text
    let kept := tokens.filter (· != .illegal)
    let runOn := fun text => run (switches.map Switch.flag) entry (Text.Utf8.encode text)
    runOn text = .ok ⟨.success, printedTokens switches tokens, ""⟩ ∧
      (optionsOf switches).tokensOf again = kept ∧
      runOn again = .ok ⟨.success, printedTokens switches kept, ""⟩ ∧
      (.illegal ∉ tokens → runOn again = runOn text) ∧
      ∀ third, Text.Spaced (kept.map Token.literal) third →
        (optionsOf switches).tokensOf third = kept ∧ runOn third = runOn again := by
  intro tokens kept runOn
  have second : (optionsOf switches).tokensOf again = kept := Options.tokensOf_of_spaced spaced
  have ran (text : List Char) := run_text quiet entry text
  refine ⟨ran text, second, ?_, fun legal => ?_, fun third spacedAgain => ?_⟩
  · rw [← second]
    exact ran again
  · have all : kept = tokens := by
      refine List.filter_eq_self.2 fun token listed => bne_iff_ne.2 ?_
      rintro rfl
      exact legal listed
    change run _ _ _ = run _ _ _
    rw [ran, ran, second, all]
  · have settled : (optionsOf switches).tokensOf third = kept := by
      rw [← second] at spacedAgain
      rw [Options.tokensOf_of_spaced spacedAgain, second, List.filter_filter]
      simp only [Bool.and_self]
      rfl
    refine ⟨settled, ?_⟩
    change run _ _ _ = run _ _ _
    rw [ran, ran, settled, second]

/-- An unknown symbol leaves a gap between its neighbours, and the end of input is read again from
its literal and not added to it. -/
theorem literals_read_back_without_illegal :
    let switches := [Switch.appendEof, .typesOnly]
    let again := "let \tx\n\x00".toList
    .verbose ∉ switches ∧
    Text.Spaced (((optionsOf switches).tokensOf "let\n@ x".toList).map Token.literal) again ∧
    run ["--eof", "-t"] (fun _ => .missing) (Text.Utf8.encode "let\n@ x".toList) =
      .ok ⟨.success, "Let\nIllegal\nIdentifier\nEof\n", ""⟩ ∧
    run ["--eof", "-t"] (fun _ => .missing) (Text.Utf8.encode again) =
      .ok ⟨.success, "Let\nIdentifier\nEof\n", ""⟩ := by
  intro switches again
  have quiet : .verbose ∉ switches := by decide
  have tokens : (optionsOf switches).tokensOf "let\n@ x".toList =
      [.fixed (.keyword .letBinding), .illegal, .identifier "x", .eof] := by decide
  have laidOut : again = [] ++ "let".toList ++ [' '] ++ ([] ++ "".toList ++ ['\t'] ++
      ([] ++ "x".toList ++ ['\n'] ++ ([] ++ "\x00".toList ++ [] ++ []))) := by decide
  have spaced : Text.Spaced (((optionsOf switches).tokensOf "let\n@ x".toList).map Token.literal)
      again := by
    rw [tokens, laidOut]
    refine .word ?_ ?_ (by simp) (.word ?_ ?_ (by simp) (.word ?_ ?_ (by simp)
      (.word ?_ ?_ (by simp) (.none ?_)))) <;> decide
  obtain ⟨first, _, second, _⟩ := literals_read_back quiet spaced (fun _ => .missing)
  have printed : printedTokens switches ((optionsOf switches).tokensOf "let\n@ x".toList) =
      "Let\nIllegal\nIdentifier\nEof\n" := by
    rw [tokens]
    decide
  have printedKept : printedTokens switches
      (((optionsOf switches).tokensOf "let\n@ x".toList).filter (· != .illegal)) =
      "Let\nIdentifier\nEof\n" := by
    rw [tokens]
    decide
  rw [printed] at first
  rw [printedKept] at second
  exact ⟨quiet, spaced, first, second⟩

end Command

end Lexis
