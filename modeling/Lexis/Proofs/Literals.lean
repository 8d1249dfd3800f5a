import Lexis.Proofs.Lines

/-!
# Shared literals

The rendering of a token shows its type name and so determines the token; the literal alone does
not. Construction refuses an identifier that has the spelling of a reserved word or of a pair, or is
a run of digits, and nothing else. What it lets pass among the spellings of marks are the symbols
and the empty text of an illegal one (`Mark.isReserved_spelling_eq_false_iff`), and those are all
the literals that two tokens share.
-/

namespace Lexis

namespace Mark

/-- The spellings of marks that are reserved are those of the words and the pairs. -/
theorem isReserved_spelling_iff (mark : Mark) :
    isReserved mark.spelling = true ↔ mark ∈ words ++ pairs := by
  revert mark
  exact forall_iff_all.2 (by decide)

/-- The spellings that are not reserved are those of the symbols and the empty one. -/
theorem isReserved_spelling_eq_false_iff (mark : Mark) :
    isReserved mark.spelling = false ↔
      mark.spelling = "" ∨ mark.spelling ∈ symbols.map spelling := by
  revert mark
  exact forall_iff_all.2 (by decide)

end Mark

namespace Token

variable {text : String} {left right : Token}

/-- The tokens are the identifier with the text and the mark with that spelling. -/
def ShareLiteral (text : String) (left right : Token) : Prop :=
  ∃ mark : Mark, mark.spelling = text ∧
    (left = .identifier text ∧ right = .fixed mark ∨ left = .fixed mark ∧ right = .identifier text)

/-- An identifier and a mark with the same text are two tokens with one literal. -/
theorem ShareLiteral.literals (shared : ShareLiteral text left right) :
    left.literal = text ∧ right.literal = text ∧ left ≠ right := by
  obtain ⟨mark, rfl, ⟨rfl, rfl⟩ | ⟨rfl, rfl⟩⟩ := shared
  · exact ⟨rfl, rfl, nofun⟩
  · exact ⟨rfl, rfl, nofun⟩

/-- The text of an integer is reserved. -/
theorem isReserved_of_constructible_integer (number : (integer text).Constructible) :
    isReserved text = true :=
  isReserved_iff.2 (.inr (.inr (constructible_integer_iff.1 number)))

/-- A text that an identifier may carry is not the text of an integer. -/
theorem not_constructible_integer_of_identifier (named : (identifier text).Constructible) :
    ¬(integer text).Constructible := by
  intro number
  have reserved := isReserved_of_constructible_integer number
  rw [constructible_identifier_iff.1 named] at reserved
  contradiction

/-- No mark is spelled like an integer. -/
theorem not_constructible_integer_spelling (mark : Mark) :
    ¬(integer mark.spelling).Constructible := by
  rw [constructible_integer_iff, mark.isDigitRun_spelling]
  exact Bool.false_ne_true

/-- Two constructible tokens with one literal are an identifier with a text that is not reserved and
the mark that is spelled so. -/
theorem exists_shareLiteral (first : left.Constructible) (second : right.Constructible)
    (same : left.literal = right.literal) (different : left ≠ right) :
    ∃ text, isReserved text = false ∧ ShareLiteral text left right := by
  cases left with
  | fixed mark =>
    change mark.spelling = right.literal at same
    cases right with
    | fixed other =>
      exact absurd (congrArg fixed (Mark.spelling_injective mark other same)) different
    | identifier text =>
      exact ⟨text, constructible_identifier_iff.1 second, mark, same, .inr ⟨rfl, rfl⟩⟩
    | integer digits =>
      obtain rfl : mark.spelling = digits := same
      exact absurd second (not_constructible_integer_spelling mark)
  | identifier text =>
    obtain rfl : text = right.literal := same
    cases right with
    | fixed mark =>
      exact ⟨mark.spelling, constructible_identifier_iff.1 first, mark, rfl, .inl ⟨rfl, rfl⟩⟩
    | identifier text => exact absurd rfl different
    | integer digits => exact absurd second (not_constructible_integer_of_identifier first)
  | integer digits =>
    obtain rfl : digits = right.literal := same
    cases right with
    | fixed mark => exact absurd first (not_constructible_integer_spelling mark)
    | identifier text => exact absurd first (not_constructible_integer_of_identifier second)
    | integer digits => exact absurd rfl different

/-- The literals of integers, words and pairs are reserved. -/
theorem isReserved_literal (constructible : left.Constructible)
    (sort : left.kind = .integer ∨ ∃ mark ∈ Mark.words ++ Mark.pairs, left = .fixed mark) :
    isReserved left.literal = true := by
  rcases sort with number | ⟨mark, listed, rfl⟩
  · cases left with
    | fixed => contradiction
    | identifier => contradiction
    | integer digits => exact isReserved_of_constructible_integer constructible
  · exact mark.isReserved_spelling_iff.2 listed

end Token

/-- Two constructible tokens have the same rendering only if they are the same. Two different ones
have the same literal exactly when one is an identifier, the other the mark that is spelled like it,
and their text empty or a symbol; the literal of an integer, a word or a pair belongs to no other
token. -/
theorem render_identifies_and_literal_collides {left right : Token} (first : left.Constructible)
    (second : right.Constructible) :
    (left.render = right.render ↔ left = right) ∧
      (left.literal = right.literal ∧ left ≠ right ↔
        ∃ text, (text = "" ∨ text ∈ Mark.symbols.map Mark.spelling) ∧
          Token.ShareLiteral text left right) ∧
      ((left.kind = .integer ∨ ∃ mark ∈ Mark.words ++ Mark.pairs, left = .fixed mark) →
        left.literal = right.literal → left = right) := by
  refine ⟨⟨Token.render_injective, congrArg _⟩, ⟨?_, ?_⟩, ?_⟩
  · rintro ⟨same, different⟩
    obtain ⟨_, free, mark, rfl, shared⟩ := Token.exists_shareLiteral first second same different
    exact ⟨mark.spelling, mark.isReserved_spelling_eq_false_iff.1 free, mark, rfl, shared⟩
  · rintro ⟨text, _, shared⟩
    obtain ⟨literal, other, different⟩ := shared.literals
    exact ⟨literal.trans other.symm, different⟩
  · intro sort same
    by_contra different
    obtain ⟨text, free, shared⟩ := Token.exists_shareLiteral first second same different
    have reserved := Token.isReserved_literal first sort
    rw [shared.literals.1, free] at reserved
    contradiction

/-- The identifier and the operator that are both written with one equals sign. -/
theorem render_identifies_and_literal_collides_assign :
    let name := Token.identifier "="
    let mark := Token.fixed (.operator .assign)
    name.Constructible ∧ mark.Constructible ∧ name.render ≠ mark.render ∧
      ∃ text, (text = "" ∨ text ∈ Mark.symbols.map Mark.spelling) ∧
        Token.ShareLiteral text name mark := by
  intro name mark
  have first : name.Constructible := Token.constructible_identifier_iff.2 (by decide)
  have second : mark.Constructible := Token.constructible_fixed _
  obtain ⟨rendered, collides, _⟩ := render_identifies_and_literal_collides first second
  have different : name ≠ mark := nofun
  exact ⟨first, second, fun same => different (rendered.1 same), collides.1 ⟨rfl, different⟩⟩

end Lexis
