import Lexis.Proofs.Units

/-!
# The language of each kind

A list is classified unit by unit: what comes before or behind a unit has no part in its token, and
only the end of input that may be added looks at the list, at its last unit. Which texts become a
token of which kind is told by the text and by whether the empty text is illegal
(`Options.token_eq_fixed_iff` and the theorems behind it). The tokens of a list are collected in one
pass that builds each of them (`Options.buildTokens`), and no check of construction stops that pass,
whatever the units are (`Options.buildTokens_eq_ok`).
-/

namespace Lexis

namespace Options

variable {options : Options} {unit : String}

/-- A mark comes of its spelling alone. -/
theorem token_eq_fixed_iff {mark : Mark} (visible : mark ≠ .sentinel .illegal) :
    options.token unit = .fixed mark ↔ unit = mark.spelling := by
  constructor
  · intro classified
    have legal : ¬options.isIllegal unit = true := by
      rw [← token_eq_illegal_iff, classified]
      simpa [Token.illegal] using visible
    have literal := options.literal_token unit
    rw [classified, if_neg legal] at literal
    exact literal.symm
  · rintro rfl
    exact options.token_spelling visible

/-- An integer comes of its own digits alone. -/
theorem token_eq_integer_iff {digits : String} :
    options.token unit = .integer digits ↔ digits = unit ∧ isDigitRun unit = true := by
  constructor
  · intro classified
    have legal : ¬options.isIllegal unit = true := by
      rw [← token_eq_illegal_iff, classified]
      simp [Token.illegal]
    have literal := options.literal_token unit
    have constructible := options.constructible_token unit
    rw [classified, if_neg legal] at literal
    obtain rfl : digits = unit := literal
    rw [classified, Token.constructible_integer_iff] at constructible
    exact ⟨rfl, constructible⟩
  · rintro ⟨rfl, run⟩
    exact options.token_number run

/-- An identifier comes of its own text, where nothing else does. -/
theorem token_eq_identifier_iff {text : String} :
    options.token unit = .identifier text ↔
      text = unit ∧ (∀ mark : Mark, mark ≠ .sentinel .illegal → unit ≠ mark.spelling) ∧
        isDigitRun unit = false ∧ options.isIllegal unit = false := by
  constructor
  · intro classified
    have legal : options.isIllegal unit = false := by
      rw [← Bool.not_eq_true, ← token_eq_illegal_iff, classified]
      simp [Token.illegal]
    have literal := options.literal_token unit
    rw [classified, if_neg (by simp [legal])] at literal
    refine ⟨literal, fun mark visible same => ?_, Bool.eq_false_iff.2 fun run => ?_, legal⟩
    · rw [(token_eq_fixed_iff visible).2 same] at classified
      contradiction
    · rw [options.token_number run] at classified
      contradiction
  · rintro ⟨rfl, unspelled, noRun, legal⟩
    cases unitCase text with
    | spelled mark visible => exact absurd rfl (unspelled mark visible)
    | stray _ alone unknown =>
      rw [options.isIllegal_stray alone unknown] at legal
      contradiction
    | number _ run =>
      rw [run] at noRun
      contradiction
    | name _ word free =>
      have filled : ¬(text = "" ∧ options.emptyIsIllegal = true) := by
        rw [← isIllegal_name word, legal]
        exact Bool.false_ne_true
      rw [options.token_name word free, if_neg filled]

/-- The illegal units are the characters that are neither part of a word nor a symbol, and the empty
text where it is to be illegal. -/
theorem isIllegal_iff_exists : options.isIllegal unit = true ↔
    (∃ character, unit = String.singleton character ∧ isWordCharacter character = false ∧
      unit ∉ Mark.symbols.map Mark.spelling) ∨ unit = "" ∧ options.emptyIsIllegal = true := by
  have unknown : Mark.spelled? Mark.symbols unit = none ↔
      unit ∉ Mark.symbols.map Mark.spelling := by
    rw [← Option.not_isSome_iff_eq_none, Mark.isSome_spelled?_iff]
  rw [isIllegal_iff, isLoneSymbol_iff, unknown]
  simp only [← exists_and_right, and_assoc]

end Options

/-- Classify a symbol as `ofSymbol` does, but build the token of a mark, so that it is checked like
any token that is built. -/
def Token.buildSymbol (text : String) : Except BuildError Token :=
  match Mark.spelled? Mark.symbols text with
  | some mark => build (.fixed mark) .absent
  | none => .ok .illegal

namespace Options

/-- Classify one lexeme, and build its token. -/
def buildToken (options : Options) (unit : String) : Except BuildError Token :=
  if isLoneSymbol unit then Token.buildSymbol unit
  else Token.buildWord options.emptyIsIllegal unit

/-- Put the token of one more lexeme behind the tokens so far. -/
def collect (options : Options) (tokens : List Token) (unit : String) :
    Except BuildError (List Token) := do
  let token ← options.buildToken unit
  return tokens ++ [token]

/-- Classify a list of lexemes in one pass, each token built, and look at the last one then. -/
def buildTokens (options : Options) (units : List String) : Except BuildError (List Token) := do
  let tokens ← units.foldlM options.collect []
  return options.close tokens

/-- No check of construction refuses the token of a unit. -/
theorem buildToken_eq_ok (options : Options) (unit : String) :
    options.buildToken unit = .ok (options.token unit) := by
  unfold buildToken token
  split
  · unfold Token.buildSymbol Token.ofSymbol
    cases Mark.spelled? Mark.symbols unit <;> rfl
  · exact Token.buildWord_eq_ok options.emptyIsIllegal unit

/-- Some lexemes put their tokens behind those so far. -/
theorem foldlM_collect (options : Options) (tokens : List Token) (units : List String) :
    units.foldlM options.collect tokens = .ok (tokens ++ units.map options.token) := by
  induction units generalizing tokens with
  | nil => simp [pure, Except.pure]
  | cons unit units ih =>
    have collected : options.collect tokens unit = .ok (tokens ++ [options.token unit]) := by
      rw [collect, buildToken_eq_ok]
      rfl
    rw [List.foldlM_cons, collected]
    change units.foldlM options.collect (tokens ++ [options.token unit]) = _
    rw [ih, List.append_assoc, List.map_cons, List.singleton_append]

/-- The pass over a list is never stopped. -/
theorem buildTokens_eq_ok (options : Options) (units : List String) :
    options.buildTokens units = .ok (classify options units) := by
  rw [buildTokens, foldlM_collect, List.nil_append]
  rfl

/-- The last token is the end of input exactly when the last unit is its spelling. -/
theorem getLast?_map_token_eq_eof_iff {options : Options} {units : List String} :
    (units.map options.token).getLast? = some .eof ↔ units.getLast? = some "\x00" := by
  have eof (unit : String) : options.token unit = .eof ↔ unit = "\x00" :=
    token_eq_fixed_iff Mark.eof_ne_illegal
  rw [List.getLast?_map, Option.map_eq_some_iff]
  simp only [eof, exists_eq_right]

/-- The tokens of a list are those of its units, and the end of input where it is asked for and the
last unit is not its spelling. -/
theorem classify_eq_map (options : Options) (units : List String) :
    classify options units = units.map options.token ++
      if options.appendEof = true ∧ units.getLast? ≠ some "\x00" then [.eof] else [] := by
  have missing : (options.appendEof && (units.map options.token).getLast? != some .eof) = true ↔
      options.appendEof = true ∧ units.getLast? ≠ some "\x00" := by
    rw [Bool.and_eq_true, bne_iff_ne, ne_eq, getLast?_map_token_eq_eof_iff]
  rw [classify, close]
  by_cases added : options.appendEof = true ∧ units.getLast? ≠ some "\x00"
  · rw [if_pos (missing.2 added), if_pos added]
  · rw [if_neg (mt missing.1 added), if_neg added, List.append_nil]

/-- A list is classified in two parts, of which only the second is closed. -/
theorem classify_append (options : Options) (units : List String) {later : List String}
    (more : later ≠ []) : classify options (units ++ later) =
      classify { options with appendEof := false } units ++ classify options later := by
  have parts : classify { options with appendEof := false } units = units.map options.token :=
    classify_of_not_appendEof rfl units
  have last : (units ++ later).getLast? = later.getLast? := List.getLast?_append_of_ne_nil units more
  rw [parts, classify_eq_map, classify_eq_map, last, List.map_append, List.append_assoc]

end Options

/-- A list of units is classified without refusal, each unit by itself and by whether the empty text
is illegal: a mark comes of its spelling, an integer of its digits, the illegal token of an unknown
symbol or the empty text, and an identifier of every other text. Only the end of input that is asked
for depends on the list, and on no more of it than its last unit, so a list may be classified in two
parts. -/
theorem classification_is_unit_by_unit (options : Options) (units : List String) :
    options.buildTokens units = .ok (classify options units) ∧
    classify options units = units.map options.token ++
      (if options.appendEof = true ∧ (units = [] ∨ units.getLast? ≠ some "\x00") then [.eof]
        else []) ∧
    (∀ other : Options, other.emptyIsIllegal = options.emptyIsIllegal →
      other.token = options.token) ∧
    (∀ unit,
      (∀ mark : Mark, mark ≠ .sentinel .illegal →
        (options.token unit = .fixed mark ↔ unit = mark.spelling)) ∧
      (∀ digits, options.token unit = .integer digits ↔
        digits = unit ∧ unit ≠ "" ∧ ∀ character ∈ unit.toList, character.isDigit) ∧
      (options.token unit = .illegal ↔
        (∃ character, unit = String.singleton character ∧ isWordCharacter character = false ∧
          unit ∉ Mark.symbols.map Mark.spelling) ∨
        unit = "" ∧ options.emptyIsIllegal = true) ∧
      ∀ text, options.token unit = .identifier text ↔
        text = unit ∧ (∀ mark : Mark, mark ≠ .sentinel .illegal → unit ≠ mark.spelling) ∧
          isDigitRun unit = false ∧ options.isIllegal unit = false) ∧
    ∀ later, later ≠ [] → classify options (units ++ later) =
      classify { options with appendEof := false } units ++ classify options later := by
  refine ⟨options.buildTokens_eq_ok units, ?_, fun other same => ?_, fun unit => ⟨?_, ?_, ?_, ?_⟩,
    fun later more => options.classify_append units more⟩
  · have last : units = [] ∨ units.getLast? ≠ some "\x00" ↔ units.getLast? ≠ some "\x00" := by
      refine or_iff_right_of_imp ?_
      rintro rfl
      exact Option.some_ne_none _ ∘ Eq.symm
    simp only [last]
    exact options.classify_eq_map units
  · funext unit
    rw [Options.token, same, Options.token]
  · exact fun mark visible => Options.token_eq_fixed_iff visible
  · intro digits
    rw [Options.token_eq_integer_iff, isDigitRun_iff]
  · rw [Options.token_eq_illegal_iff, Options.isIllegal_iff_exists]
  · exact fun text => Options.token_eq_identifier_iff

/-- An unknown symbol and an end of input in the middle stop nothing, and an end of input is added
behind a text that only starts with its spelling. -/
theorem classification_is_unit_by_unit_past_end :
    let options : Options := { appendEof := true }
    let units := ["\x00", "@", "=="]
    options.buildTokens (units ++ ["\x00x"]) =
      .ok [.eof, .illegal, .fixed (.operator .equal), .identifier "\x00x", .eof] ∧
    (Mark.sentinel .eof ≠ .sentinel .illegal ∧ options.token "\x00" = .eof) ∧
    ["\x00x"] ≠ [] ∧ classify options (units ++ ["\x00x"]) =
      classify {} units ++ classify options ["\x00x"] := by
  intro options units
  obtain ⟨built, _, _, each, _⟩ :=
    classification_is_unit_by_unit options (units ++ ["\x00x"])
  obtain ⟨_, _, _, _, parts⟩ := classification_is_unit_by_unit options units
  have tokens : classify options (units ++ ["\x00x"]) =
      [.eof, .illegal, .fixed (.operator .equal), .identifier "\x00x", .eof] := by decide
  have eof : options.token "\x00" = .eof := ((each "\x00").1 _ Mark.eof_ne_illegal).2 rfl
  rw [tokens] at built
  exact ⟨built, ⟨Mark.eof_ne_illegal, eof⟩, List.cons_ne_nil _ _, parts _ (List.cons_ne_nil _ _)⟩

end Lexis
