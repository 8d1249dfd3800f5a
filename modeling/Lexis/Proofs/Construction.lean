import Lexis.Catalogue
import Lexis.Kind.Lookup

/-!
# Constructible tokens

A token is constructible when construction returns it for some kind and payload. That condition
names no text; `WellFormed` says the same by the kind of a token and the text it carries, and the
two agree (`wellFormed_iff_constructible`). The type name, the literal and the rendering of a token
are read off the published tables as well, where a row could be missing; none is (`described`).
-/

namespace Lexis

namespace Catalogue

/-- The entry of a published table of pairs under a key, if the table has such a row. -/
def entry? (name key : String) : Option String :=
  match table? name with
  | some (.pairs rows) => rows.lookup key
  | _ => none

/-- Every kind has a row in the table of type names. -/
theorem entry?_typeNames (kind : Kind) : entry? "TYPE_NAMES" kind.name = some kind.typeName := by
  revert kind
  exact Kind.forall_iff_all.2 (by decide)

/-- Every mark has a row in the table of fixed literals. -/
theorem entry?_fixedLiterals (mark : Mark) :
    entry? "FIXED_LITERALS" mark.name = some mark.spelling := by
  revert mark
  exact Mark.forall_iff_all.2 (by decide)

end Catalogue

namespace Token

/-- A token that construction returns for some kind and payload. -/
def Constructible (token : Token) : Prop :=
  ∃ kind payload, build kind payload = .ok token

/-- What the kind of a token and the text it carries have to do with each other. -/
structure WellFormed (token : Token) : Prop where
  /-- Identifiers and integers carry a text, and no other token does. -/
  carries : token.text?.isSome = true ↔ token.kind = .identifier ∨ token.kind = .integer
  /-- The text of an integer is a run of digits. -/
  digits : ∀ text, token.kind = .integer → token.text? = some text →
    text ≠ "" ∧ ∀ character ∈ text.toList, character.isDigit
  /-- The text of an identifier is no reserved word, no pair and no run of digits. -/
  name : ∀ text, token.kind = .identifier → token.text? = some text →
    text ∉ Mark.words.map Mark.spelling ∧ text ∉ Mark.pairs.map Mark.spelling ∧
      ¬(text ≠ "" ∧ ∀ character ∈ text.toList, character.isDigit)

/-- The type name of a token by the published table. -/
def typeName? (token : Token) : Option String := Catalogue.entry? "TYPE_NAMES" token.kind.name

/-- The text of a token, or else the fixed literal of its kind by the published table. -/
def literal? (token : Token) : Option String :=
  token.text?.or (Catalogue.entry? "FIXED_LITERALS" token.kind.name)

/-- The rendering of a token by the published tables. -/
def render? (token : Token) : Option String := do
  let typeName ← token.typeName?
  let literal ← token.literal?
  some ("\x7btype: " ++ typeName ++ ", literal: \"" ++ literal ++ "\"\x7d")

/-- The texts of a token are defined: no table lacks a row, and the name that the display shows is
that of the kind. -/
structure Described (token : Token) : Prop where
  typeName : token.typeName? = some token.typeName
  /-- The literal is the text that is carried, or in its table. -/
  literal : token.literal? = some token.literal
  render : token.render? = some token.render
  /-- The kind is found by the name that the display shows. -/
  name : Kind.named token.kind.name = .ok token.kind
  /-- The kind carries text exactly when the token does. -/
  payload : token.kind.carriesText = token.text?.isSome

/-- The texts of every token are defined. -/
theorem described (token : Token) : token.Described := by
  have typed : token.typeName? = some token.typeName := Catalogue.entry?_typeNames token.kind
  have spelled : token.literal? = some token.literal := by
    cases token with
    | fixed mark => exact Catalogue.entry?_fixedLiterals mark
    | identifier text => rfl
    | integer digits => rfl
  refine ⟨typed, spelled, ?_, Kind.named_name token.kind, ?_⟩
  · rw [render?, typed, spelled]
    rfl
  · cases token <;> rfl

/-- A constructible token is built again from its own kind and payload. -/
theorem build_of_constructible {token : Token} (constructible : token.Constructible) :
    build token.kind token.payload = .ok token := by
  obtain ⟨kind, payload, built⟩ := constructible
  obtain ⟨sameKind, samePayload⟩ := kind_and_payload_of_build built
  rw [sameKind, samePayload]
  exact built

theorem constructible_fixed (mark : Mark) : (Token.fixed mark).Constructible :=
  ⟨.fixed mark, .absent, rfl⟩

/-- An identifier is constructible exactly when its text is not reserved. -/
theorem constructible_identifier_iff {text : String} :
    (Token.identifier text).Constructible ↔ isReserved text = false := by
  constructor
  · intro constructible
    have built : build .identifier (.text text) = .ok (.identifier text) :=
      build_of_constructible constructible
    rw [build] at built
    split at built
    · contradiction
    · rename_i free
      simpa using free
  · intro free
    exact ⟨.identifier, .text text, by simp [build, free]⟩

/-- An integer is constructible exactly when its text is a run of digits. -/
theorem constructible_integer_iff {digits : String} :
    (Token.integer digits).Constructible ↔ isDigitRun digits = true := by
  constructor
  · intro constructible
    have built : build .integer (.text digits) = .ok (.integer digits) :=
      build_of_constructible constructible
    rw [build] at built
    split at built
    · assumption
    · contradiction
  · intro run
    exact ⟨.integer, .text digits, by simp [build, run]⟩

/-- A token with replaced fields is constructible, where it is made at all. -/
theorem constructible_of_replace {token made : Token} {kind : Option Kind}
    {payload : Option Payload} (replaced : token.replace kind payload = .ok made) :
    made.Constructible :=
  ⟨kind.getD token.kind, payload.getD token.payload, replaced⟩

end Token

/-- A text is reserved when it is a reserved word, a pair or a run of digits. -/
theorem isReserved_iff {text : String} :
    isReserved text = true ↔ text ∈ Mark.words.map Mark.spelling ∨
      text ∈ Mark.pairs.map Mark.spelling ∨ isDigitRun text = true := by
  rw [isReserved, Bool.or_eq_true, Bool.or_eq_true, Mark.isSome_spelled?_iff,
    Mark.isSome_spelled?_iff, or_assoc]

/-- The tokens that construction returns are those whose kind and text fit together. -/
theorem Token.wellFormed_iff_constructible {token : Token} :
    token.WellFormed ↔ token.Constructible := by
  cases token with
  | fixed mark =>
    have wellFormed : (Token.fixed mark).WellFormed :=
      ⟨by simp [text?, kind], by simp [text?], by simp [text?]⟩
    exact iff_of_true wellFormed (constructible_fixed mark)
  | identifier text =>
    have free : isReserved text = false ↔ text ∉ Mark.words.map Mark.spelling ∧
        text ∉ Mark.pairs.map Mark.spelling ∧
          ¬(text ≠ "" ∧ ∀ character ∈ text.toList, character.isDigit) := by
      rw [← isDigitRun_iff, ← Bool.not_eq_true, isReserved_iff, not_or, not_or]
    rw [constructible_identifier_iff, free]
    constructor
    · intro wellFormed
      exact wellFormed.name text rfl rfl
    · intro name
      exact ⟨by simp [text?, kind], by simp [kind], by simpa [text?, kind] using name⟩
  | integer digits =>
    rw [constructible_integer_iff, isDigitRun_iff]
    constructor
    · intro wellFormed
      exact wellFormed.digits digits rfl rfl
    · intro run
      exact ⟨by simp [text?, kind], by simpa [text?, kind] using run, by simp [kind]⟩

end Lexis
