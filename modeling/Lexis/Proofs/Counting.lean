import Lexis.Proofs.Lines
import Lexis.Proofs.OptionEffects
import Lexis.Proofs.Verbosity

/-!
# Counts in the log

A batch counts its units while it classifies them and its illegal tokens when it has classified them
all, so an end of input that is added could come between the two counts. It does not: it is no unit
and not illegal, and both counts are those of the units (`Options.count_illegal_eq_countP`). So they
do not depend on whether the end of input is asked for, and batches that are put together have the
sums of their counts. A verbose run that prints type names shows both counts twice, in its log and
in its lines.
-/

namespace Lexis

/-- What a pass over some units holds. -/
structure Tally where
  /-- The tokens so far. -/
  tokens : List Token
  /-- The number of units so far. -/
  units : Nat

namespace Options

variable {options : Options}

/-- Count one more unit, and put its token behind those so far. -/
def tally (options : Options) (sofar : Tally) (unit : String) : Except BuildError Tally := do
  let token ← options.buildToken unit
  return ⟨sofar.tokens ++ [token], sofar.units + 1⟩

/-- Classify a list of units in one pass that counts them. The illegal tokens are counted behind
that pass, one by one, when the end of input may have been added already. -/
def tallied (options : Options) (units : List String) : Except BuildError Batch := do
  let counted ← units.foldlM options.tally ⟨[], 0⟩
  let tokens := options.close counted.tokens
  let illegal := tokens.foldl (fun count token => if token = .illegal then count + 1 else count) 0
  return ⟨tokens, [.classified counted.units illegal]⟩

/-- Each unit is counted once. -/
theorem foldlM_tally (options : Options) (sofar : Tally) (units : List String) :
    units.foldlM options.tally sofar =
      .ok ⟨sofar.tokens ++ units.map options.token, sofar.units + units.length⟩ := by
  induction units generalizing sofar with
  | nil => simp [pure, Except.pure]
  | cons unit units ih =>
    have counted : options.tally sofar unit =
        .ok ⟨sofar.tokens ++ [options.token unit], sofar.units + 1⟩ := by
      rw [tally, buildToken_eq_ok]
      rfl
    rw [List.foldlM_cons, counted]
    change units.foldlM options.tally ⟨_, _⟩ = _
    rw [ih]
    have length : sofar.units + 1 + units.length = sofar.units + (unit :: units).length := by
      rw [List.length_cons]
      omega
    simp [length]

/-- The tokens that are counted one by one are those that there are. -/
theorem foldl_illegal (tokens : List Token) (sofar : Nat) :
    tokens.foldl (fun count token => if token = .illegal then count + 1 else count) sofar =
      sofar + tokens.count .illegal := by
  induction tokens generalizing sofar with
  | nil => rfl
  | cons token tokens ih =>
    rw [List.foldl_cons, ih, List.count_cons]
    by_cases illegal : token = .illegal
    · simp only [illegal, ↓reduceIte, BEq.rfl]
      omega
    · simp [illegal]

/-- The pass with its counts is the batch. -/
theorem tallied_eq_ok (options : Options) (units : List String) :
    options.tallied units = .ok (classifyBatch options units) := by
  rw [tallied, foldlM_tally]
  change Except.ok (⟨options.close ([] ++ units.map options.token), [.classified _ _]⟩ : Batch) = _
  rw [foldl_illegal, Nat.zero_add, Nat.zero_add]
  rfl

/-- There are as many illegal tokens as illegal units. -/
theorem count_illegal_eq_countP (options : Options) (units : List String) :
    (classify options units).count .illegal = units.countP options.isIllegal := by
  have same : ((· == Token.illegal) ∘ options.token) = options.isIllegal := by
    funext unit
    rw [Bool.eq_iff_iff, Function.comp_apply, beq_iff_eq, token_eq_illegal_iff]
  rw [count_illegal_classify, List.count, List.countP_map, same]

/-- The counts of a batch are those of its units. -/
theorem log_classifyBatch (options : Options) (units : List String) :
    (classifyBatch options units).log =
      [.classified units.length (units.countP options.isIllegal)] := by
  rw [← count_illegal_eq_countP]
  rfl

/-- The type names of a batch are those of its units, and one more for the end of input where it is
added. -/
theorem map_typeName_classify (options : Options) (units : List String) :
    (classify options units).map Token.typeName =
      units.map (fun unit => (options.token unit).typeName) ++
        if options.appendEof = true ∧ units.getLast? ≠ some "\x00" then ["Eof"] else [] := by
  rw [classify_eq_map, List.map_append, List.map_map]
  split <;> rfl

/-- Which units are illegal does not depend on whether the end of input is asked for. -/
theorem isIllegal_congr {other : Options} (same : other.emptyIsIllegal = options.emptyIsIllegal) :
    other.isIllegal = options.isIllegal := by
  funext unit
  rw [isIllegal, same, isIllegal]

end Options

namespace Token

/-- Only the illegal token has its type name. -/
theorem typeName_eq_illegal_iff {token : Token} :
    token.typeName = "Illegal" ↔ token = .illegal := by
  constructor
  · intro named
    have kinds : token.kind = Token.illegal.kind := Kind.typeName_injective named
    cases token with
    | fixed mark => exact congrArg Token.fixed (Kind.fixed.inj kinds)
    | identifier text => contradiction
    | integer digits => contradiction
  · rintro rfl
    rfl

/-- There are as many type names of the illegal token as illegal tokens. -/
theorem count_map_typeName (tokens : List Token) :
    (tokens.map typeName).count "Illegal" = tokens.count .illegal := by
  have same : ((· == "Illegal") ∘ typeName) = (· == Token.illegal) := by
    funext token
    rw [Bool.eq_iff_iff, Function.comp_apply, beq_iff_eq, beq_iff_eq, typeName_eq_illegal_iff]
  rw [List.count, List.countP_map, same, List.count]

/-- The type names of some tokens, printed, are lines that hold nothing else. -/
theorem isLines_typeNames (tokens : List Token) :
    Text.IsLines (tokens.map typeName) (printedLines (tokens.map typeName)) := by
  have whole : ∀ line ∈ tokens.map typeName, '\n' ∉ line.toList := by
    intro line listed
    obtain ⟨token, _, rfl⟩ := List.mem_map.1 listed
    exact token.not_mem_typeName rfl
  have lines := isLines_printedLines whole
  rwa [List.map_map, List.map_congr_left fun token _ => token.strip_typeName] at lines

end Token

namespace Command

namespace Invocation

variable {invocation : Invocation} {entry : String → Entry} {stdin : List UInt8}

/-- A request notes its counts last, and behind nothing that counts. -/
theorem Classifies.exists_uncounted_log {units : List String}
    (classifies : invocation.Classifies entry stdin units) (silent : invocation.notice? = none) :
    ∃ log, (∀ count illegal, .classified count illegal ∉ log) ∧
      invocation.outcome entry stdin = invocation.classified log units := by
  cases classifies with
  | lexemes noFile given => exact ⟨[], by simp, outcome_of_lexemes silent noFile given⟩
  | @words record text source =>
    refine ⟨[record], ?_, ?_⟩
    · cases source <;> simp
    · rw [outcome_of_source silent source, read, Text.Utf8.decode_encode]

/-- A verbose request that prints type names shows its counts in its log and in its lines. -/
theorem Classifies.shows_counts {units : List String}
    (classifies : invocation.Classifies entry stdin units) (silent : invocation.notice? = none)
    (loud : invocation.verbose = true) (named : invocation.typesOnly = true) :
    let tokens := classify invocation.options units
    let left := invocation.outcome entry stdin
    Text.IsLines (tokens.map Token.typeName) left.stdout ∧
      ∃ log, (∀ count illegal, .classified count illegal ∉ log) ∧
        left.stderr = logLines (log ++ [.classified units.length (tokens.count .illegal)]) := by
  intro tokens left
  obtain ⟨log, uncounted, outcome⟩ := classifies.exists_uncounted_log silent
  have lines : invocation.tokenLine = Token.typeName := by
    funext token
    rw [tokenLine, if_pos named]
  refine ⟨?_, log, uncounted, ?_⟩
  · rw [show left.stdout = _ from congrArg Outcome.stdout outcome, classified, lines]
    exact Token.isLines_typeNames tokens
  · rw [show left.stderr = _ from congrArg Outcome.stderr outcome, classified, shown, if_pos loud]
    rfl

end Invocation

/-- A batch notes how many units it has and how many of its tokens are illegal, and nothing else.
The illegal tokens are as many as the illegal units, so the end of input that may be added has no
part in the counts, and batches that are put together have the sums of their counts. A verbose run
that prints type names shows the same counts in its log and in its lines, whatever it reads: each
unit has a line, the illegal ones have that of the illegal token, and only the end of input that is
added has one more. -/
theorem counts_agree_with_units_and_lines :
    (∀ (options : Options) (units : List String),
      let illegal := (classify options units).count .illegal
      options.tallied units = .ok (classifyBatch options units) ∧
      classifyBatch options units =
        ⟨classify options units, [.classified units.length illegal]⟩ ∧
      (LogRecord.classified units.length illegal).message =
        "Classified " ++ toString units.length ++ " lexemes (" ++ toString illegal ++ " illegal)" ∧
      illegal = units.countP options.isIllegal ∧
      (∀ unit, options.isIllegal unit = true ↔
        (∃ character, unit = String.singleton character ∧ isWordCharacter character = false ∧
          unit ∉ Mark.symbols.map Mark.spelling) ∨
        unit = "" ∧ options.emptyIsIllegal = true) ∧
      (∀ other : Options, other.emptyIsIllegal = options.emptyIsIllegal →
        (classifyBatch other units).log = (classifyBatch options units).log) ∧
      illegal ≤ units.length ∧
      ∀ later count more, (classifyBatch options later).log = [.classified count more] →
        (classifyBatch options (units ++ later)).log =
          [.classified (units.length + count) (illegal + more)]) ∧
    ∀ arguments items, readArguments arguments = .ok items →
      .switch .verbose ∈ items → .switch .typesOnly ∈ items →
      ∀ entry stdin left, run arguments entry stdin = .ok left → left.exit = .success →
        let request := Invocation.ofItems items
        (∃ notice, .notice notice ∈ items) ∧ left.stderr = "" ∨
        (∀ notice, .notice notice ∉ items) ∧
          ∃ units lines log count illegal, request.Classifies entry stdin units ∧
            Text.IsLines lines left.stdout ∧
            left.stderr = logLines (log ++ [.classified count illegal]) ∧
            (∀ other more, .classified other more ∉ log) ∧
            illegal = lines.count "Illegal" ∧
            lines = units.map (fun unit => (request.options.token unit).typeName) ++
              (if request.options.appendEof = true ∧ units.getLast? ≠ some "\x00" then ["Eof"]
                else []) ∧
            lines.length = count +
              (if request.options.appendEof = true ∧ units.getLast? ≠ some "\x00" then 1
                else 0) := by
  refine ⟨fun options units => ?_, fun arguments items read verbose typesOnly entry stdin left ran
    success => ?_⟩
  · intro illegal
    have counted : illegal = units.countP options.isIllegal :=
      options.count_illegal_eq_countP units
    refine ⟨options.tallied_eq_ok units, rfl, rfl, counted, fun _ => Options.isIllegal_iff_exists,
      fun other same => ?_, ?_, fun later count more logged => ?_⟩
    · rw [Options.log_classifyBatch, Options.log_classifyBatch, Options.isIllegal_congr same]
    · rw [counted]
      exact List.countP_le_length
    · rw [Options.log_classifyBatch, List.cons.injEq, LogRecord.classified.injEq] at logged
      obtain ⟨⟨rfl, rfl⟩, _⟩ := logged
      rw [Options.log_classifyBatch, List.length_append, List.countP_append, ← counted]
  · intro request
    have asks : Invocation.ofArguments arguments = .ok request :=
      Invocation.ofArguments_eq_ok_iff.2 ⟨items, read, rfl⟩
    have loud : request.verbose = true := by simpa [request, Invocation.ofItems] using verbose
    have named : request.typesOnly = true := by simpa [request, Invocation.ofItems] using typesOnly
    obtain rfl := eq_outcome_of_run asks ran
    cases asked : request.notice? with
    | some notice =>
      have listed : ∃ notice, .notice notice ∈ items :=
        Invocation.ofItems_notice?_isSome_iff.1 (Option.isSome_iff_exists.2 ⟨notice, asked⟩)
      refine .inl ⟨listed, ?_⟩
      simp only [Invocation.outcome, asked]
      rfl
    | none =>
      obtain ⟨units, classifies⟩ := (Invocation.exit_eq_success_iff asked).1 success
      obtain ⟨lines, log, uncounted, stderr⟩ := classifies.shows_counts asked loud named
      have names := request.options.map_typeName_classify units
      refine .inr ⟨Invocation.ofItems_notice?_eq_none_iff.1 asked, units, _, log, _, _, classifies,
        lines, stderr, uncounted, (Token.count_map_typeName _).symm, names, ?_⟩
      rw [names, List.length_append, List.length_map]
      split <;> rfl

/-- An empty lexeme and an unknown symbol in a strict run: the end of input that is added has a line
and is in no count. -/
theorem counts_agree_with_units_and_lines_added_end :
    let arguments := ["-tv", "--eof", "--strict-empty", "", "@", "x"]
    let left : Outcome := ⟨.success, "Illegal\nIllegal\nIdentifier\nEof\n",
      "DEBUG: Classified 3 lexemes (2 illegal)\n"⟩
    run arguments (fun _ => .missing) [] = .ok left ∧
    (∃ log, Text.IsLines ["Illegal", "Illegal", "Identifier", "Eof"] left.stdout ∧
      left.stderr = logLines (log ++ [.classified 3 2])) ∧
    (classifyBatch ⟨true, false⟩ ["", "@"]).log = (classifyBatch ⟨true, true⟩ ["", "@"]).log ∧
    (classifyBatch ⟨true, true⟩ (["", "@"] ++ ["x"])).log = [.classified (2 + 1) (2 + 0)] := by
  intro arguments left
  have read : readArguments arguments = .ok [.switch .typesOnly, .switch .verbose,
      .switch .appendEof, .switch .strictEmpty, .lexeme "", .lexeme "@", .lexeme "x"] := rfl
  have ran : run arguments (fun _ => .missing) [] = .ok left := rfl
  obtain ⟨batches, runs⟩ := counts_agree_with_units_and_lines
  obtain ⟨_, _, _, _, _, alike, _, sums⟩ := batches ⟨true, true⟩ ["", "@"]
  obtain ⟨⟨_, listed⟩, _⟩ | ⟨_, units, lines, log, count, illegal, classifies, printed, stderr, _,
    rfl, rfl, length⟩ := runs arguments _ read (by simp) (by simp) _ _ left ran rfl
  · simp at listed
  · obtain rfl := classifies.unique (.lexemes rfl (by decide))
    obtain rfl : 3 = count := Nat.succ.inj length
    exact ⟨ran, ⟨log, printed, stderr⟩, alike ⟨true, false⟩ rfl, sums ["x"] 1 0 rfl⟩

end Command

end Lexis
