import Lexis.Proofs.Literals

/-!
# The two routes

A text is classified as a symbol or as a word, and each route has tokens of its own. The word keeps
its text as the literal of its token, whatever becomes of it (`Token.literal_ofWord`); the symbol
does so unless it is illegal (`Token.literal_ofSymbol`). So a token comes along a route exactly when
its own literal does, and the two sets of tokens share the illegal one alone.
-/

namespace Lexis

namespace Token

variable {token : Token} {text : String} {emptyIsIllegal : Bool}

/-- The tokens that are spelled as words: identifiers, integers, the two pairs and the reserved
words. -/
inductive IsWord : Token → Prop where
  | identifier (text : String) : IsWord (.identifier text)
  | integer (digits : String) : IsWord (.integer digits)
  | equal : IsWord (.fixed (.operator .equal))
  | notEqual : IsWord (.fixed (.operator .notEqual))
  | keyword (member : Keyword) : IsWord (.fixed (.keyword member))

/-- A mark is a word when it is one of the reserved words or the pairs. -/
theorem isWord_fixed_iff {mark : Mark} :
    (Token.fixed mark).IsWord ↔ mark ∈ Mark.words ++ Mark.pairs := by
  constructor
  · intro word
    cases word with
    | equal => decide
    | notEqual => decide
    | keyword member => cases member <;> decide
  · intro listed
    rcases List.mem_append.1 listed with word | pair
    · obtain ⟨member, _, rfl⟩ := List.mem_map.1 word
      exact .keyword member
    · rcases List.mem_pair.1 pair with rfl | rfl
      · exact .equal
      · exact .notEqual

/-- No symbol is a reserved word or a pair. -/
theorem not_isWord_of_mem_symbols {mark : Mark} (listed : mark ∈ Mark.symbols) :
    ¬(Token.fixed mark).IsWord := by
  have apart : ∀ member ∈ Mark.symbols, member ∉ Mark.words ++ Mark.pairs := by decide
  exact mt isWord_fixed_iff.1 (apart mark listed)

/-- The ways of a symbol: it is found among the symbols, or it is illegal. -/
theorem ofSymbol_cases (text : String) :
    (∃ mark ∈ Mark.symbols, mark.spelling = text ∧ ofSymbol text = .fixed mark) ∨
      text ∉ Mark.symbols.map Mark.spelling ∧ ofSymbol text = .illegal := by
  unfold ofSymbol
  cases found : Mark.spelled? Mark.symbols text with
  | some mark =>
    obtain ⟨listed, spelled⟩ := Mark.spelled?_eq_some_iff.1 found
    exact .inl ⟨mark, listed, spelled, rfl⟩
  | none =>
    refine .inr ⟨fun listed => ?_, rfl⟩
    have known := Mark.isSome_spelled?_iff.2 listed
    rw [found] at known
    contradiction

/-- The literal of a symbol is the symbol, unless it is illegal. -/
theorem literal_ofSymbol (visible : ofSymbol text ≠ .illegal) :
    (ofSymbol text).literal = text := by
  rcases ofSymbol_cases text with ⟨mark, _, spelled, classified⟩ | ⟨_, illegal⟩
  · rw [classified]
    exact spelled
  · exact absurd illegal visible

/-- The literal of a word is the word: where it is illegal, both are empty. -/
theorem literal_ofWord (emptyIsIllegal : Bool) (text : String) :
    (ofWord emptyIsIllegal text).literal = text := by
  cases reserved : isReserved text with
  | false =>
    rw [ofWord_of_not_isReserved reserved]
    split
    · rename_i empty
      exact empty.1.symm
    · rfl
  | true =>
    rcases isReserved_iff.1 reserved with word | pair | run
    · obtain ⟨mark, listed, rfl⟩ := List.mem_map.1 word
      rw [ofWord_spelling (List.mem_append.2 (.inl listed))]
      rfl
    · obtain ⟨mark, listed, rfl⟩ := List.mem_map.1 pair
      rw [ofWord_spelling (List.mem_append.2 (.inr listed))]
      rfl
    · rw [ofWord_of_isDigitRun run]
      rfl

/-- The tokens of symbols are the illegal one and those of the listed symbols. -/
theorem exists_ofSymbol_eq_iff :
    (∃ text, ofSymbol text = token) ↔
      token = .illegal ∨ token.kind ∈ Mark.symbols.map Kind.fixed := by
  constructor
  · rintro ⟨text, rfl⟩
    rcases ofSymbol_cases text with ⟨mark, listed, _, classified⟩ | ⟨_, illegal⟩
    · rw [classified]
      exact .inr (List.mem_map_of_mem listed)
    · exact .inl illegal
  · rintro (rfl | listed)
    · exact ⟨"", rfl⟩
    · obtain ⟨mark, member, kinds⟩ := List.mem_map.1 listed
      have itself : token = .fixed mark := by
        cases token with
        | fixed other => exact congrArg Token.fixed (Kind.fixed.inj kinds).symm
        | identifier => contradiction
        | integer => contradiction
      refine ⟨mark.spelling, ?_⟩
      rw [ofSymbol, Mark.spelled?_spelling, if_pos member, itself]

/-- A word is illegal exactly when it is empty and the empty text is to be illegal. -/
theorem ofWord_eq_illegal_iff :
    ofWord emptyIsIllegal text = .illegal ↔ text = "" ∧ emptyIsIllegal = true := by
  constructor
  · intro illegal
    have empty : text = "" := by
      rw [← literal_ofWord emptyIsIllegal text, illegal]
      rfl
    subst empty
    refine ⟨rfl, ?_⟩
    cases emptyIsIllegal with
    | true => rfl
    | false => contradiction
  · rintro ⟨rfl, rfl⟩
    rfl

/-- The spelling of a mark is the word of that mark when it is a reserved word or a pair, or empty
where the empty text is illegal. -/
theorem ofWord_spelling_eq_iff {mark : Mark} :
    ofWord emptyIsIllegal mark.spelling = .fixed mark ↔
      (Token.fixed mark).IsWord ∨ Token.fixed mark = .illegal ∧ emptyIsIllegal = true := by
  rw [isWord_fixed_iff]
  by_cases listed : mark ∈ Mark.words ++ Mark.pairs
  · exact iff_of_true (ofWord_spelling listed emptyIsIllegal) (.inl listed)
  · have free : isReserved mark.spelling = false :=
      Bool.eq_false_iff.2 (mt mark.isReserved_spelling_iff.1 listed)
    rw [ofWord_of_not_isReserved free]
    constructor
    · intro classified
      split at classified
      · rename_i empty
        exact .inr ⟨classified.symm, empty.2⟩
      · contradiction
    · rintro (word | ⟨illegal, strict⟩)
      · exact absurd word listed
      · obtain rfl := Token.fixed.inj illegal
        exact (if_pos ⟨rfl, strict⟩).trans illegal.symm

/-- The tokens of words are identifiers, integers, pairs and reserved words, without the empty
identifier and with the illegal token where the empty text is illegal. -/
theorem exists_ofWord_eq_iff (constructible : token.Constructible) :
    (∃ text, ofWord emptyIsIllegal text = token) ↔
      token.IsWord ∧ ¬(token = .identifier "" ∧ emptyIsIllegal = true) ∨
        token = .illegal ∧ emptyIsIllegal = true := by
  -- The only text that a token can come from is its literal.
  have origin : (∃ text, ofWord emptyIsIllegal text = token) ↔
      ofWord emptyIsIllegal token.literal = token := by
    refine ⟨?_, fun classified => ⟨_, classified⟩⟩
    rintro ⟨text, rfl⟩
    rw [literal_ofWord]
  rw [origin]
  cases token with
  | fixed mark =>
    change ofWord emptyIsIllegal mark.spelling = .fixed mark ↔ _
    rw [ofWord_spelling_eq_iff]
    simp
  | identifier text =>
    change ofWord emptyIsIllegal text = .identifier text ↔ _
    rw [ofWord_of_not_isReserved (constructible_identifier_iff.1 constructible)]
    have word : (Token.identifier text).IsWord := .identifier text
    by_cases empty : text = "" ∧ emptyIsIllegal = true
    · rw [if_pos empty]
      exact iff_of_false (by simp [illegal]) (by simp [empty, illegal])
    · rw [if_neg empty]
      exact iff_of_true rfl (.inl ⟨word, by simpa using empty⟩)
  | integer digits =>
    have classified := ofWord_of_isDigitRun (constructible_integer_iff.1 constructible)
      emptyIsIllegal
    exact iff_of_true classified (.inl ⟨.integer digits, by simp⟩)

/-- The two routes give a text the same token exactly when it is empty and the empty text is to be
illegal. -/
theorem ofSymbol_eq_ofWord_iff :
    ofSymbol text = ofWord emptyIsIllegal text ↔ text = "" ∧ emptyIsIllegal = true := by
  constructor
  · intro same
    rcases ofSymbol_cases text with ⟨mark, listed, rfl, classified⟩ | ⟨_, illegal⟩
    · rw [classified] at same
      rcases ofWord_spelling_eq_iff.1 same.symm with word | ⟨hidden, strict⟩
      · exact absurd word (not_isWord_of_mem_symbols listed)
      · obtain rfl := Token.fixed.inj hidden
        exact ⟨rfl, strict⟩
    · rw [illegal] at same
      exact ofWord_eq_illegal_iff.1 same.symm
  · rintro ⟨rfl, rfl⟩
    rfl

/-- Every constructible token comes of a symbol, or of a word where the empty text is an
identifier. -/
theorem exists_ofSymbol_or_ofWord (constructible : token.Constructible) :
    (∃ text, ofSymbol text = token) ∨ ∃ text, ofWord false text = token := by
  rw [exists_ofSymbol_eq_iff, exists_ofWord_eq_iff constructible]
  have lenient {property : Prop} : ¬(property ∧ false = true) := by simp
  cases token with
  | identifier text => exact .inr (.inl ⟨.identifier text, lenient⟩)
  | integer digits => exact .inr (.inl ⟨.integer digits, lenient⟩)
  | fixed mark =>
    by_cases hidden : mark = .sentinel .illegal
    · exact .inl (.inl (congrArg Token.fixed hidden))
    · rcases Mark.mem_symbols_or_mem hidden with symbol | word
      · exact .inl (.inr (List.mem_map_of_mem symbol))
      · exact .inr (.inl ⟨isWord_fixed_iff.2 word, lenient⟩)

/-- A token that comes along both routes is illegal. -/
theorem eq_illegal_of_ofSymbol_of_ofWord {word : String} (symbol : ofSymbol text = token)
    (classified : ofWord emptyIsIllegal word = token) : token = .illegal := by
  have constructible : token.Constructible := symbol ▸ constructible_ofSymbol text
  rcases ofSymbol_cases text with ⟨mark, listed, _, found⟩ | ⟨_, illegal⟩
  · obtain rfl := found.symm.trans symbol
    rcases (exists_ofWord_eq_iff constructible).1 ⟨word, classified⟩ with ⟨isWord, _⟩ | ⟨illegal, _⟩
    · exact absurd isWord (not_isWord_of_mem_symbols listed)
    · exact illegal
  · exact symbol.symm.trans illegal

end Token

/-- The tokens of symbols are the illegal one and those of the listed marks, and the tokens of words
are all others, where the empty text is an identifier or illegal as is asked for. A token that is not
illegal comes of its literal alone. Each constructible token comes along one of the routes and only
the illegal one along both, and no text but the empty one has the same token along both. -/
theorem routes_divide_constructible_tokens {token : Token} (constructible : token.Constructible) :
    ((∃ text, Token.ofSymbol text = token) ↔
      token = .illegal ∨ token.kind ∈ Mark.symbols.map Kind.fixed) ∧
    (∀ emptyIsIllegal, (∃ text, Token.ofWord emptyIsIllegal text = token) ↔
      token.IsWord ∧ ¬(token = .identifier "" ∧ emptyIsIllegal = true) ∨
        token = .illegal ∧ emptyIsIllegal = true) ∧
    (token ≠ .illegal → ∀ emptyIsIllegal text,
      Token.ofSymbol text = token ∨ Token.ofWord emptyIsIllegal text = token →
        text = token.literal) ∧
    ((∃ text, Token.ofSymbol text = token) ∨ ∃ text, Token.ofWord false text = token) ∧
    ((∃ text, Token.ofSymbol text = token) ∧
        (∃ emptyIsIllegal text, Token.ofWord emptyIsIllegal text = token) ↔ token = .illegal) ∧
    ∀ emptyIsIllegal text,
      Token.ofSymbol text = Token.ofWord emptyIsIllegal text ↔
        text = "" ∧ emptyIsIllegal = true := by
  refine ⟨Token.exists_ofSymbol_eq_iff, fun _ => Token.exists_ofWord_eq_iff constructible,
    fun visible emptyIsIllegal text => ?_, Token.exists_ofSymbol_or_ofWord constructible,
    ⟨?_, ?_⟩, fun _ _ => Token.ofSymbol_eq_ofWord_iff⟩
  · rintro (rfl | rfl)
    · exact (Token.literal_ofSymbol visible).symm
    · exact (Token.literal_ofWord emptyIsIllegal text).symm
  · rintro ⟨⟨_, symbol⟩, _, _, classified⟩
    exact Token.eq_illegal_of_ofSymbol_of_ofWord symbol classified
  · rintro rfl
    exact ⟨⟨"", rfl⟩, true, "", rfl⟩

/-- The empty identifier comes of a word only where the empty text is not to be illegal, and of no
symbol. -/
theorem routes_divide_constructible_tokens_empty :
    (Token.identifier "").Constructible ∧
      (∃ text, Token.ofWord false text = .identifier "") ∧
      (¬∃ text, Token.ofWord true text = .identifier "") ∧
      ¬∃ text, Token.ofSymbol text = .identifier "" := by
  have constructible : (Token.identifier "").Constructible :=
    Token.constructible_identifier_iff.2 (by decide)
  obtain ⟨symbols, words, _⟩ := routes_divide_constructible_tokens constructible
  refine ⟨constructible, (words false).2 (.inl ⟨.identifier "", by simp⟩), fun found => ?_,
    fun found => ?_⟩
  · rcases (words true).1 found with ⟨_, kept⟩ | ⟨illegal, _⟩
    · exact kept ⟨rfl, rfl⟩
    · contradiction
  · rcases symbols.1 found with illegal | listed
    · contradiction
    · revert listed
      decide

end Lexis
