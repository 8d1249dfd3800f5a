import Lexis.Proofs.Reclassification

/-!
# The range of classification

Which tokens a unit can have, and which lists a list of units. Every settled token is that of its
own literal; the illegal token has no literal to come from and is that of any unknown symbol
(`Token.origin`). No other token is ever returned, so the lists that are returned are those of such
tokens with the end of input in its place.
-/

namespace Lexis

/-- A unit that a token may come from: the literal, or an unknown symbol for the illegal token. -/
def Token.origin : Token → String
  | .fixed (.sentinel .illegal) => "@"
  | token => token.literal

theorem Token.origin_of_ne_illegal {token : Token} (visible : token ≠ .illegal) :
    token.origin = token.literal := by
  unfold origin
  split
  · exact absurd rfl visible
  · rfl

namespace Options

/-- A token comes from its origin exactly when it is illegal or settled. -/
theorem token_origin_eq_iff {options : Options} {token : Token}
    (constructible : token.Constructible) :
    options.token token.origin = token ↔ token = .illegal ∨ token.IsSettled options := by
  by_cases illegal : token = .illegal
  · subst illegal
    have unknown : options.token "@" = .illegal := options.token_stray (by decide) (by decide)
    exact iff_of_true unknown (.inl rfl)
  · rw [Token.origin_of_ne_illegal illegal, token_literal_eq_iff constructible]
    exact (or_iff_right illegal).symm

/-- The tokens of units are the constructible ones that are illegal or settled. -/
theorem exists_token_eq_iff {options : Options} {token : Token} :
    (∃ unit, options.token unit = token) ↔
      token.Constructible ∧ (token = .illegal ∨ token.IsSettled options) := by
  constructor
  · rintro ⟨unit, rfl⟩
    refine ⟨options.constructible_token unit, ?_⟩
    cases illegal : options.isIllegal unit with
    | true => exact .inl (token_eq_illegal_iff.2 illegal)
    | false => exact .inr (isSettled_token (.inr illegal))
  · rintro ⟨constructible, settled⟩
    exact ⟨token.origin, (token_origin_eq_iff constructible).2 settled⟩

/-- A list is returned exactly when each of its tokens is that of some unit and no end of input is
missing; the origins of its tokens are then classified as that list. -/
theorem exists_classify_eq_iff {options : Options} {tokens : List Token} :
    (∃ units, classify options units = tokens) ↔
      (∀ token ∈ tokens, ∃ unit, options.token unit = token) ∧ options.close tokens = tokens := by
  constructor
  · rintro ⟨units, rfl⟩
    refine ⟨fun token listed => ?_, options.close_close _⟩
    obtain ⟨unit, _, classified⟩ := mem_classify listed
    exact ⟨unit, classified⟩
  · rintro ⟨returned, closed⟩
    have origins : tokens.map (options.token ∘ Token.origin) = tokens := by
      conv_rhs => rw [← List.map_id tokens]
      refine List.map_congr_left fun token listed => ?_
      obtain ⟨constructible, settled⟩ := exists_token_eq_iff.1 (returned token listed)
      exact (token_origin_eq_iff constructible).2 settled
    refine ⟨tokens.map Token.origin, ?_⟩
    rw [classify, List.map_map, origins, closed]

end Options

/-- Some tokens are all illegal or settled exactly when no identifier is one symbol and none is
empty where the empty text is illegal. -/
theorem Token.forall_illegal_or_isSettled_iff {options : Options} {tokens : List Token} :
    (∀ token ∈ tokens, token = .illegal ∨ token.IsSettled options) ↔
      (∀ character, isWordCharacter character = false →
        .identifier (String.singleton character) ∉ tokens) ∧
      (options.emptyIsIllegal = true → .identifier "" ∉ tokens) := by
  -- Without the illegal tokens, the condition of a fixed point on them is void.
  have others : (∀ token ∈ tokens, token = .illegal ∨ token.IsSettled options) ↔
      ∀ token ∈ tokens.filter (· != .illegal), token.IsSettled options := by
    simp only [List.mem_filter, bne_iff_ne, ne_eq, and_imp, or_iff_not_imp_left]
  rw [others, forall_isSettled_iff]
  simp [Token.illegal]

/-- The lists that classification returns are exactly those of constructible tokens in which no
identifier is one symbol, none is empty where the empty text is illegal, and the end of input stands
last where it is asked for. -/
theorem classification_range_exact {options : Options} {tokens : List Token} :
    (∃ units, classify options units = tokens) ↔
      (∀ token ∈ tokens, token.Constructible) ∧
      (∀ character, isWordCharacter character = false →
        .identifier (String.singleton character) ∉ tokens) ∧
      (options.emptyIsIllegal = true → .identifier "" ∉ tokens) ∧
      (options.appendEof = true → tokens.getLast? = some .eof) := by
  have closed : options.close tokens = tokens ↔
      (options.appendEof = true → tokens.getLast? = some .eof) := by
    rw [Options.close_eq_self_iff, ← Bool.not_eq_true, imp_iff_not_or]
  rw [Options.exists_classify_eq_iff, closed]
  simp only [Options.exists_token_eq_iff, forall_and]
  rw [Token.forall_illegal_or_isSettled_iff, and_assoc, and_assoc]

end Lexis
