import Lexis.Proofs.Units
import Lexis.Session

/-!
# Reclassification

Tokens are classified anew by their literals, and most come out as themselves (`Token.IsSettled`).
Three sorts do not: an identifier of one symbol, an illegal token where the empty text is an
identifier, and the empty identifier where it is illegal. A list is a fixed point when all its
tokens are settled and the end of input is in its place (`Options.reclassify_eq_self_iff`). What a
first pass leaves unsettled is settled by a second one, so no third pass changes anything.
-/

namespace Lexis

/-- A constructible token is settled when its literal is classified as that token. -/
def Token.IsSettled (options : Options) : Token → Prop
  | .fixed mark => mark = .sentinel .illegal → options.emptyIsIllegal = true
  | .identifier text => isLoneSymbol text = false ∧ (options.emptyIsIllegal = true → text ≠ "")
  | .integer _ => True

namespace Options

/-- The tokens that a reclassification puts in the place of others. -/
def reclassify (options : Options) (tokens : List Token) : List Token :=
  (Session.reclassification options tokens).tokens

theorem reclassify_eq_classify (options : Options) (tokens : List Token) :
    options.reclassify tokens = classify options (tokens.map Token.literal) := rfl

/-- The empty text is illegal exactly when the options say so. -/
theorem isIllegal_empty (options : Options) : options.isIllegal "" = options.emptyIsIllegal := rfl

/-- The settled tokens are those whose literal is classified as the token itself. -/
theorem token_literal_eq_iff {options : Options} {token : Token}
    (constructible : token.Constructible) :
    options.token token.literal = token ↔ token.IsSettled options := by
  cases token with
  | fixed mark =>
    by_cases visible : mark = .sentinel .illegal
    · subst visible
      change options.token "" = .illegal ↔ _
      rw [token_eq_illegal_iff, isIllegal_empty]
      exact ⟨fun illegal _ => illegal, fun settled => settled rfl⟩
    · exact iff_of_true (options.token_spelling visible) fun hidden => absurd hidden visible
  | identifier text =>
    have free := Token.constructible_identifier_iff.1 constructible
    change options.token text = .identifier text ↔ _
    cases word : isLoneSymbol text with
    | true =>
      obtain ⟨mark, classified⟩ := options.token_of_isLoneSymbol word
      rw [classified]
      exact iff_of_false (by simp) fun settled => absurd settled.1 (by simp [word])
    | false =>
      rw [options.token_name word free]
      split
      · rename_i illegal
        exact iff_of_false (by simp [Token.illegal]) fun settled =>
          settled.2 illegal.2 illegal.1
      · rename_i legal
        exact iff_of_true rfl ⟨word, fun strict empty => legal ⟨empty, strict⟩⟩
  | integer digits =>
    exact iff_of_true (options.token_number (Token.constructible_integer_iff.1 constructible))
      trivial

/-- The end of input is added once or not at all. -/
theorem close_eq_or (options : Options) (tokens : List Token) :
    options.close tokens = tokens ∨ options.close tokens = tokens ++ [.eof] := by
  unfold close
  split
  · exact .inr rfl
  · exact .inl rfl

/-- Nothing is added exactly where none is asked for, or the tokens end with the end of input. -/
theorem close_eq_self_iff {options : Options} {tokens : List Token} :
    options.close tokens = tokens ↔
      options.appendEof = false ∨ tokens.getLast? = some .eof := by
  unfold close
  split
  · rename_i missing
    simp only [Bool.and_eq_true, bne_iff_ne, ne_eq] at missing
    exact iff_of_false (by simp) (by simp [missing])
  · rename_i closed
    simp only [Bool.and_eq_true, bne_iff_ne, ne_eq, not_and, not_not] at closed
    refine iff_of_true rfl ?_
    cases asked : options.appendEof with
    | false => exact .inl rfl
    | true => exact .inr (closed asked)

/-- A second end of input is never added. -/
theorem close_close (options : Options) (tokens : List Token) :
    options.close (options.close tokens) = options.close tokens := by
  rcases options.close_eq_or tokens with same | longer
  · rw [same, same]
  · rw [longer]
    exact close_eq_self_iff.2 (.inr (by simp))

/-- A list is a fixed point when each literal is classified as its token and nothing is added. -/
theorem reclassify_eq_self_iff {options : Options} {tokens : List Token} :
    options.reclassify tokens = tokens ↔
      (∀ token ∈ tokens, options.token token.literal = token) ∧ options.close tokens = tokens := by
  rw [reclassify_eq_classify, classify, List.map_map]
  have pointwise : tokens.map (options.token ∘ Token.literal) = tokens ↔
      ∀ token ∈ tokens, options.token token.literal = token := by
    conv_lhs => rhs; rw [← List.map_id tokens]
    exact List.map_inj_left
  rw [← pointwise]
  constructor
  · intro fixed
    rcases options.close_eq_or (tokens.map (options.token ∘ Token.literal)) with same | longer
    · have kept := same.symm.trans fixed
      rw [kept] at fixed
      exact ⟨kept, fixed⟩
    · -- An end of input that is added makes the list longer than the one it is to be.
      have lengths := congrArg List.length (longer.symm.trans fixed)
      simp at lengths
  · rintro ⟨kept, closed⟩
    rw [kept, closed]

/-- Every token of a list is that of a unit, or of the spelling of the end of input. -/
theorem mem_classify {options : Options} {units : List String} {token : Token}
    (listed : token ∈ classify options units) :
    ∃ unit, (unit ∈ units ∨ unit = Token.eof.literal) ∧ options.token unit = token := by
  have ofUnits (within : token ∈ units.map options.token) :
      ∃ unit, (unit ∈ units ∨ unit = Token.eof.literal) ∧ options.token unit = token := by
    obtain ⟨unit, member, classified⟩ := List.mem_map.1 within
    exact ⟨unit, .inl member, classified⟩
  rw [classify] at listed
  rcases options.close_eq_or (units.map options.token) with same | longer
  · rw [same] at listed
    exact ofUnits listed
  · rw [longer, List.mem_append, List.mem_singleton] at listed
    rcases listed with within | rfl
    · exact ofUnits within
    · exact ⟨Token.eof.literal, .inr rfl, options.token_spelling Mark.eof_ne_illegal⟩

/-- The token of a unit is settled, unless the unit is illegal and the empty text is not. -/
theorem isSettled_token {options : Options} {unit : String}
    (kept : options.emptyIsIllegal = true ∨ options.isIllegal unit = false) :
    (options.token unit).IsSettled options := by
  cases unitCase unit with
  | spelled mark visible =>
    rw [options.token_spelling visible]
    exact fun hidden => absurd hidden visible
  | stray unit alone unknown =>
    rw [options.isIllegal_stray alone unknown] at kept
    rw [options.token_stray alone unknown]
    exact fun _ => kept.resolve_right (by simp)
  | number unit run =>
    rw [options.token_number run]
    trivial
  | name unit word free =>
    rw [options.token_name word free]
    split
    · rename_i illegal
      exact fun _ => illegal.2
    · rename_i legal
      exact ⟨word, fun strict empty => legal ⟨empty, strict⟩⟩

/-- The literal of a classified token is legal, unless the empty text is illegal. -/
theorem isIllegal_literal_of_mem_classify {options : Options} {units : List String}
    {token : Token} (listed : token ∈ classify options units) :
    options.emptyIsIllegal = true ∨ options.isIllegal token.literal = false := by
  obtain ⟨unit, _, rfl⟩ := mem_classify listed
  rw [literal_token]
  cases illegal : options.isIllegal unit with
  | true => simp [isIllegal_empty]
  | false => exact .inr (by simp [illegal])

/-- Tokens of units that are legal, or illegal together with the empty text, stay as they are. -/
theorem reclassify_classify {options : Options} {units : List String}
    (kept : ∀ unit ∈ units, options.emptyIsIllegal = true ∨ options.isIllegal unit = false) :
    options.reclassify (classify options units) = classify options units := by
  refine reclassify_eq_self_iff.2 ⟨fun token listed => ?_, options.close_close _⟩
  obtain ⟨unit, origin, rfl⟩ := mem_classify listed
  have settled : (options.token unit).IsSettled options := by
    rcases origin with within | rfl
    · exact isSettled_token (kept unit within)
    · exact isSettled_token (.inr (options.isIllegal_spelling Mark.eof_ne_illegal))
  exact (token_literal_eq_iff (options.constructible_token unit)).2 settled

/-- Where the empty text is illegal, one pass settles every list. -/
theorem reclassify_reclassify {options : Options} (strict : options.emptyIsIllegal = true)
    (tokens : List Token) :
    options.reclassify (options.reclassify tokens) = options.reclassify tokens :=
  reclassify_classify fun _ _ => .inl strict

/-- Two passes settle every list. -/
theorem reclassify_settles (options : Options) (tokens : List Token) :
    options.reclassify (options.reclassify (options.reclassify tokens)) =
      options.reclassify (options.reclassify tokens) := by
  -- The second pass reads literals of classified tokens, and no such literal is an unknown symbol.
  refine reclassify_classify fun unit within => ?_
  obtain ⟨token, listed, rfl⟩ := List.mem_map.1 within
  exact isIllegal_literal_of_mem_classify listed

end Options

/-- Some tokens are all settled exactly when none is an identifier of one symbol, none is illegal
where the empty text is an identifier, and none is the empty identifier where it is illegal. -/
theorem Token.forall_isSettled_iff {options : Options} {tokens : List Token} :
    (∀ token ∈ tokens, token.IsSettled options) ↔
      (∀ character, isWordCharacter character = false →
        .identifier (String.singleton character) ∉ tokens) ∧
      (options.emptyIsIllegal = false → .illegal ∉ tokens) ∧
      (options.emptyIsIllegal = true → .identifier "" ∉ tokens) := by
  constructor
  · intro settled
    refine ⟨fun character outside listed => ?_, fun lenient listed => ?_, fun strict listed => ?_⟩
    · have alone := isLoneSymbol_iff.2 ⟨character, rfl, outside⟩
      exact absurd (settled _ listed).1 (by simp [alone])
    · exact absurd (settled _ listed rfl) (by simp [lenient])
    · exact (settled _ listed).2 strict rfl
  · rintro ⟨noSymbol, noIllegal, noEmpty⟩ token listed
    cases token with
    | fixed mark =>
      rintro rfl
      cases strict : options.emptyIsIllegal with
      | true => rfl
      | false => exact absurd listed (noIllegal strict)
    | identifier text =>
      refine ⟨Bool.eq_false_iff.2 fun alone => ?_, ?_⟩
      · obtain ⟨character, rfl, outside⟩ := isLoneSymbol_iff.1 alone
        exact noSymbol character outside listed
      · rintro strict rfl
        exact noEmpty strict listed
    | integer digits => trivial

/-- A list of constructible tokens is left as it is exactly when no identifier is one symbol, no
token is illegal or an empty identifier against the options, and the end of input is in its place.
One pass settles every list where the empty text is illegal, and two passes settle it anyway. -/
theorem reclassification_fixed_points_and_settling {options : Options} {tokens : List Token}
    (constructible : ∀ token ∈ tokens, token.Constructible) :
    (options.reclassify tokens = tokens ↔
      ((∀ character, isWordCharacter character = false →
          .identifier (String.singleton character) ∉ tokens) ∧
        (options.emptyIsIllegal = false → .illegal ∉ tokens) ∧
        (options.emptyIsIllegal = true → .identifier "" ∉ tokens)) ∧
      (options.appendEof = false ∨ tokens.getLast? = some .eof)) ∧
    (options.emptyIsIllegal = true →
      options.reclassify (options.reclassify tokens) = options.reclassify tokens) ∧
    options.reclassify (options.reclassify (options.reclassify tokens)) =
      options.reclassify (options.reclassify tokens) := by
  refine ⟨?_, fun strict => Options.reclassify_reclassify strict tokens,
    options.reclassify_settles tokens⟩
  rw [Options.reclassify_eq_self_iff, Options.close_eq_self_iff, ← Token.forall_isSettled_iff]
  refine and_congr_left fun _ => forall₂_congr fun token listed => ?_
  exact Options.token_literal_eq_iff (constructible token listed)

/-- An identifier of one unknown symbol is settled by the second pass and not by the first. -/
theorem reclassification_fixed_points_and_settling_stray :
    (∀ token ∈ [Token.identifier "@"], token.Constructible) ∧
      Options.reclassify {} [.identifier "@"] ≠ [.identifier "@"] ∧
      Options.reclassify {} (Options.reclassify {} [.identifier "@"]) ≠
        Options.reclassify {} [.identifier "@"] ∧
      Options.reclassify {} (Options.reclassify {} (Options.reclassify {} [.identifier "@"])) =
        Options.reclassify {} (Options.reclassify {} [.identifier "@"]) := by
  have constructible : ∀ token ∈ [Token.identifier "@"], token.Constructible := by
    intro token listed
    rw [List.mem_singleton.1 listed]
    exact Token.constructible_identifier_iff.2 (by decide)
  have law := @reclassification_fixed_points_and_settling {} _ constructible
  refine ⟨constructible, fun fixed => ?_, by decide, law.2.2⟩
  exact (law.1.1 fixed).1.1 '@' (by decide) (List.mem_singleton.2 rfl)

end Lexis
