import Lexis.Proofs.Words
import Mathlib.Data.List.Forall2

/-!
# Units and their tokens

A unit goes along one of two routes, and what comes out tells which unit went in: the literal of its
token is the unit, unless the unit is illegal, and then the token is the illegal one
(`Options.literal_token`, `Options.token_eq_illegal_iff`). So two units have the same token exactly
when they are equal or both illegal, and the same holds of lists, position by position.
-/

namespace Lexis

/-- A lone symbol is one character that is no part of a word. -/
theorem isLoneSymbol_iff {unit : String} :
    isLoneSymbol unit = true ↔
      ∃ character, unit = String.singleton character ∧ isWordCharacter character = false := by
  constructor
  · intro alone
    unfold isLoneSymbol at alone
    split at alone
    · rename_i character single
      refine ⟨character, ?_, by simpa using alone⟩
      rw [← String.toList_inj, single, String.toList_singleton]
    · contradiction
  · rintro ⟨character, rfl, outside⟩
    simp [isLoneSymbol, outside]

/-- A run of digits is no lone symbol, because digits are part of words. -/
theorem isLoneSymbol_of_isDigitRun {unit : String} (run : isDigitRun unit = true) :
    isLoneSymbol unit = false := by
  refine Bool.eq_false_iff.2 fun alone => ?_
  obtain ⟨character, rfl, outside⟩ := isLoneSymbol_iff.1 alone
  have digit : character.isDigit = true := (isDigitRun_iff.1 run).2 character (by simp)
  simp [isWordCharacter, Char.isAlphanum, digit] at outside

/-- Every mark but the illegal one is a symbol, a reserved word or a pair. -/
theorem Mark.mem_symbols_or_mem {mark : Mark} (visible : mark ≠ .sentinel .illegal) :
    mark ∈ symbols ∨ mark ∈ words ++ pairs := by
  have listed : ∀ member : Mark, member ≠ .sentinel .illegal →
      member ∈ symbols ∨ member ∈ words ++ pairs := forall_iff_all.2 (by decide)
  exact listed mark visible

theorem Mark.eof_ne_illegal : Mark.sentinel .eof ≠ .sentinel .illegal := by decide

/-- The spelling of a symbol is a lone symbol. -/
theorem Mark.isLoneSymbol_of_mem_symbols {mark : Mark} (listed : mark ∈ symbols) :
    isLoneSymbol mark.spelling = true := by
  have alone : ∀ member ∈ symbols, isLoneSymbol member.spelling = true := by decide
  exact alone mark listed

/-- The spelling of a reserved word or a pair is no lone symbol. -/
theorem Mark.isLoneSymbol_of_mem {mark : Mark} (listed : mark ∈ words ++ pairs) :
    isLoneSymbol mark.spelling = false := by
  have longer : ∀ member ∈ words ++ pairs, isLoneSymbol member.spelling = false := by decide
  exact longer mark listed

theorem Token.constructible_ofSymbol (text : String) : (ofSymbol text).Constructible := by
  unfold ofSymbol
  split
  · exact constructible_fixed _
  · exact constructible_fixed (.sentinel .illegal)

namespace Options

/-- A unit without a token of its own: one character that is neither part of a word nor a symbol,
or the empty text where it is to be illegal. -/
def isIllegal (options : Options) (unit : String) : Bool :=
  match unit.toList with
  | [] => options.emptyIsIllegal
  | [character] => !isWordCharacter character && !(Mark.symbols.map Mark.spelling).contains unit
  | _ => false

/-- A unit is illegal when it is a lone symbol that is not found, or empty against the options. -/
theorem isIllegal_iff {options : Options} {unit : String} :
    options.isIllegal unit = true ↔
      isLoneSymbol unit = true ∧ Mark.spelled? Mark.symbols unit = none ∨
        unit = "" ∧ options.emptyIsIllegal = true := by
  unfold isIllegal
  split
  · rename_i empty
    rw [String.toList_eq_nil_iff] at empty
    subst empty
    simp [isLoneSymbol]
  · rename_i character single
    have filled : unit ≠ "" := by
      rintro rfl
      simp at single
    have alone : isLoneSymbol unit = !isWordCharacter character := by
      simp [isLoneSymbol, single]
    simp [filled, alone, Mark.spelled?_eq_none_iff]
  · rename_i notEmpty notSingle
    have filled : unit ≠ "" := by
      rintro rfl
      exact notEmpty rfl
    have longer : isLoneSymbol unit = false := by
      refine Bool.eq_false_iff.2 fun alone => ?_
      obtain ⟨character, rfl, _⟩ := isLoneSymbol_iff.1 alone
      exact notSingle character (String.toList_singleton character)
    simp [filled, longer]

/-- The ways of a unit: the spelling of a mark other than the empty one, an unknown symbol, a run of
digits, or any other text, which may be empty. -/
inductive UnitCase : String → Prop where
  | spelled (mark : Mark) (visible : mark ≠ .sentinel .illegal) : UnitCase mark.spelling
  | stray (unit : String) (alone : isLoneSymbol unit = true)
      (unknown : Mark.spelled? Mark.symbols unit = none) : UnitCase unit
  | number (unit : String) (run : isDigitRun unit = true) : UnitCase unit
  | name (unit : String) (word : isLoneSymbol unit = false) (free : isReserved unit = false) :
      UnitCase unit

/-- Every unit goes one of these ways. -/
theorem unitCase (unit : String) : UnitCase unit := by
  cases alone : isLoneSymbol unit with
  | true =>
    cases found : Mark.spelled? Mark.symbols unit with
    | none => exact .stray unit alone found
    | some mark =>
      obtain ⟨listed, rfl⟩ := Mark.spelled?_eq_some_iff.1 found
      refine .spelled mark ?_
      rintro rfl
      contradiction
  | false =>
    -- The empty text is neither a reserved word nor a pair, so the illegal mark does not come up.
    have ofWords {mark : Mark} (listed : mark ∈ Mark.words ++ Mark.pairs) :
        UnitCase mark.spelling := by
      refine .spelled mark ?_
      rintro rfl
      revert listed
      decide
    cases wordCase unit with
    | pair mark pairs words digits =>
      obtain ⟨listed, rfl⟩ := Mark.spelled?_eq_some_iff.1 pairs
      exact ofWords (List.mem_append.2 (.inr listed))
    | keyword mark pairs words digits =>
      obtain ⟨listed, rfl⟩ := Mark.spelled?_eq_some_iff.1 words
      exact ofWords (List.mem_append.2 (.inl listed))
    | number pairs words digits => exact .number unit digits
    | name pairs words digits =>
      exact .name unit alone (by simp [isReserved, pairs, words, digits])

/-- The spelling of a mark is classified as that mark, whatever the options. -/
theorem token_spelling (options : Options) {mark : Mark} (visible : mark ≠ .sentinel .illegal) :
    options.token mark.spelling = .fixed mark := by
  unfold token
  rcases Mark.mem_symbols_or_mem visible with listed | listed
  · rw [if_pos (Mark.isLoneSymbol_of_mem_symbols listed), Token.ofSymbol, Mark.spelled?_spelling,
      if_pos listed]
  · rw [if_neg (by simp [Mark.isLoneSymbol_of_mem listed]), Token.ofWord_spelling listed]

/-- A lone symbol is classified as a mark. -/
theorem token_of_isLoneSymbol (options : Options) {unit : String}
    (alone : isLoneSymbol unit = true) : ∃ mark, options.token unit = .fixed mark := by
  rw [token, if_pos alone, Token.ofSymbol]
  split
  · exact ⟨_, rfl⟩
  · exact ⟨.sentinel .illegal, rfl⟩

theorem token_stray (options : Options) {unit : String} (alone : isLoneSymbol unit = true)
    (unknown : Mark.spelled? Mark.symbols unit = none) : options.token unit = .illegal := by
  rw [token, if_pos alone, Token.ofSymbol, unknown]

theorem token_number (options : Options) {unit : String} (run : isDigitRun unit = true) :
    options.token unit = .integer unit := by
  rw [token, if_neg (by simp [isLoneSymbol_of_isDigitRun run]), Token.ofWord_of_isDigitRun run]

/-- A text that is neither alone nor reserved is classified as an identifier, unless it is empty
against the options. -/
theorem token_name (options : Options) {unit : String} (word : isLoneSymbol unit = false)
    (free : isReserved unit = false) :
    options.token unit =
      if unit = "" ∧ options.emptyIsIllegal then .illegal else .identifier unit := by
  rw [token, if_neg (by simp [word]), Token.ofWord_of_not_isReserved free]

/-- Whatever a unit is classified as is constructible. -/
theorem constructible_token (options : Options) (unit : String) :
    (options.token unit).Constructible := by
  unfold token
  split
  · exact Token.constructible_ofSymbol unit
  · exact Token.constructible_ofWord options.emptyIsIllegal unit

/-- The spelling of a mark is not illegal, other than the empty one. -/
theorem isIllegal_spelling (options : Options) {mark : Mark}
    (visible : mark ≠ .sentinel .illegal) : options.isIllegal mark.spelling = false := by
  refine Bool.eq_false_iff.2 fun illegal => ?_
  rcases isIllegal_iff.1 illegal with ⟨alone, unknown⟩ | ⟨empty, _⟩
  · rcases Mark.mem_symbols_or_mem visible with listed | listed
    · rw [Mark.spelled?_spelling, if_pos listed] at unknown
      contradiction
    · rw [Mark.isLoneSymbol_of_mem listed] at alone
      contradiction
  · exact visible (Mark.spelling_injective mark (.sentinel .illegal) empty)

theorem isIllegal_stray (options : Options) {unit : String} (alone : isLoneSymbol unit = true)
    (unknown : Mark.spelled? Mark.symbols unit = none) : options.isIllegal unit = true :=
  isIllegal_iff.2 (.inl ⟨alone, unknown⟩)

theorem isIllegal_number (options : Options) {unit : String} (run : isDigitRun unit = true) :
    options.isIllegal unit = false := by
  refine Bool.eq_false_iff.2 fun illegal => ?_
  rcases isIllegal_iff.1 illegal with ⟨alone, _⟩ | ⟨empty, _⟩
  · rw [isLoneSymbol_of_isDigitRun run] at alone
    contradiction
  · exact ne_empty_of_isDigitRun run empty

/-- A text that is not alone is illegal only when it is empty against the options. -/
theorem isIllegal_name {options : Options} {unit : String} (word : isLoneSymbol unit = false) :
    options.isIllegal unit = true ↔ unit = "" ∧ options.emptyIsIllegal = true := by
  rw [isIllegal_iff, word]
  simp

/-- The illegal token comes of the illegal units and of no others. -/
theorem token_eq_illegal_iff {options : Options} {unit : String} :
    options.token unit = .illegal ↔ options.isIllegal unit = true := by
  cases unitCase unit with
  | spelled mark visible =>
    rw [options.token_spelling visible, options.isIllegal_spelling visible]
    simpa [Token.illegal] using visible
  | stray unit alone unknown =>
    exact iff_of_true (options.token_stray alone unknown) (options.isIllegal_stray alone unknown)
  | number unit run =>
    rw [options.token_number run, options.isIllegal_number run]
    simp [Token.illegal]
  | name unit word free =>
    rw [options.token_name word free, isIllegal_name word]
    split
    · rename_i illegal
      exact iff_of_true rfl illegal
    · rename_i legal
      exact iff_of_false (by simp [Token.illegal]) legal

/-- The literal of the token is the unit itself, and empty where the unit is illegal. -/
theorem literal_token (options : Options) (unit : String) :
    (options.token unit).literal = if options.isIllegal unit then "" else unit := by
  cases illegal : options.isIllegal unit with
  | true =>
    rw [token_eq_illegal_iff.2 illegal]
    rfl
  | false =>
    rw [if_neg (by simp)]
    cases unitCase unit with
    | spelled mark visible =>
      rw [options.token_spelling visible]
      rfl
    | stray unit alone unknown =>
      rw [options.isIllegal_stray alone unknown] at illegal
      contradiction
    | number unit run =>
      rw [options.token_number run]
      rfl
    | name unit word free =>
      have legal : ¬(unit = "" ∧ options.emptyIsIllegal = true) := fun empty => by
        rw [(isIllegal_name word).2 empty] at illegal
        contradiction
      rw [options.token_name word free, if_neg legal]
      rfl

/-- Two units have the same token exactly when they are equal or both illegal. -/
theorem token_eq_token_iff {options : Options} {left right : String} :
    options.token left = options.token right ↔
      left = right ∨ options.isIllegal left = true ∧ options.isIllegal right = true := by
  constructor
  · intro same
    cases illegal : options.isIllegal left with
    | true =>
      rw [token_eq_illegal_iff.2 illegal] at same
      exact .inr ⟨rfl, token_eq_illegal_iff.1 same.symm⟩
    | false =>
      have legal : options.isIllegal right = false := by
        rw [← Bool.not_eq_true, ← token_eq_illegal_iff, ← same, token_eq_illegal_iff, illegal]
        simp
      have literals := congrArg Token.literal same
      rw [literal_token, literal_token, illegal, legal] at literals
      exact .inl literals
  · rintro (rfl | ⟨first, second⟩)
    · rfl
    · rw [token_eq_illegal_iff.2 first, token_eq_illegal_iff.2 second]

end Options

/-- Without an end of input to add, the classification of a list keeps every unit but the text of
the illegal ones: it is undone by the literals up to that text, and two lists are classified alike
exactly when they have the same length and are, at each position, equal or both illegal. -/
theorem classify_injective_up_to_illegal {options : Options} (off : options.appendEof = false) :
    (∀ units, (classify options units).map Token.literal =
      units.map fun unit => if options.isIllegal unit then "" else unit) ∧
    ∀ left right, classify options left = classify options right ↔
      List.Forall₂ (fun first second => first = second ∨
        options.isIllegal first = true ∧ options.isIllegal second = true) left right := by
  constructor
  · intro units
    rw [classify_of_not_appendEof off, List.map_map]
    exact List.map_congr_left fun unit _ => options.literal_token unit
  · intro left right
    rw [classify_of_not_appendEof off, classify_of_not_appendEof off, ← List.forall₂_eq_eq_eq,
      List.forall₂_map_left_iff, List.forall₂_map_right_iff]
    simp only [Options.token_eq_token_iff]

/-- An unknown symbol and the empty text are not told apart where both are illegal, and the texts
around them are kept. -/
theorem classify_injective_up_to_illegal_stray :
    classify ⟨true, false⟩ ["x", "@", "=="] = classify ⟨true, false⟩ ["x", "", "=="] ∧
      (classify ⟨true, false⟩ ["x", "@", "=="]).map Token.literal = ["x", "", "=="] :=
  ⟨((classify_injective_up_to_illegal rfl).2 _ _).2
      (.cons (.inl rfl) (.cons (.inr ⟨rfl, rfl⟩) (.cons (.inl rfl) .nil))),
    (classify_injective_up_to_illegal rfl).1 _⟩

end Lexis
