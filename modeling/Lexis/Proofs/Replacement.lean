import Lexis.Proofs.Refusals
import Lexis.Proofs.SessionInvariant

/-!
# Replaced fields

A token with replaced fields is built from what is given and what it had, so what decides is whether
the old field and the new one fit. A new kind fits the old text only where it is the old kind, or
where neither kind carries a text (`Token.exists_replace_kind_iff`): the text of an identifier is
never that of an integer, nor the other way round. A refusal is about the new kind, and a session in
which a replacement is refused keeps the tokens that it had.
-/

namespace Lexis

namespace Token

variable {token : Token} {kind : Kind} {payload : Payload}

/-- The text of an identifier does not fit an integer. -/
theorem misfit_integer_of_identifier {text : String} (named : (identifier text).Constructible) :
    Misfit .integer (.text text) := by
  refine .notDigits fun run => ?_
  have reserved : isReserved text = true :=
    isReserved_iff.2 (.inr (.inr (isDigitRun_iff.2 run)))
  rw [constructible_identifier_iff.1 named] at reserved
  contradiction

/-- The text of an integer does not fit an identifier. -/
theorem misfit_identifier_of_integer {digits : String} (number : (integer digits).Constructible) :
    Misfit .identifier (.text digits) :=
  .reserved (.inr (.inr (isDigitRun_iff.1 (constructible_integer_iff.1 number))))

/-- What is no text is a misfit, unless nothing is given to a kind that carries no text. -/
theorem misfit_of_forall_ne_text (noText : ∀ text, payload ≠ .text text)
    (given : payload ≠ .absent ∨ kind.carriesText = true) : Misfit kind payload := by
  cases kind with
  | fixed mark => exact .carried (given.resolve_right Bool.false_ne_true)
  | identifier => exact .noText (.inl rfl) noText
  | integer => exact .noText (.inr rfl) noText

/-- Kinds that carry no text are built without one, and no others. -/
theorem exists_build_absent_iff :
    (∃ made, build kind .absent = .ok made) ↔ kind.carriesText = false := by
  have misfit (carries : kind.carriesText = true) : Misfit kind .absent :=
    misfit_of_forall_ne_text (by simp) (.inr carries)
  cases kind with
  | fixed mark => exact iff_of_true ⟨.fixed mark, rfl⟩ rfl
  | identifier => exact iff_of_false (misfit rfl).not_exists_build (by simp [Kind.carriesText])
  | integer => exact iff_of_false (misfit rfl).not_exists_build (by simp [Kind.carriesText])

/-- What a constructible token carries does not fit another kind, unless neither of the two kinds
carries a text. -/
theorem misfit_of_ne_kind (constructible : token.Constructible) (other : kind ≠ token.kind)
    (carries : ¬(kind.carriesText = false ∧ token.kind.carriesText = false)) :
    Misfit kind token.payload := by
  cases token with
  | fixed mark =>
    cases kind with
    | fixed => exact absurd ⟨rfl, rfl⟩ carries
    | identifier => exact misfit_of_forall_ne_text (by simp [Token.payload]) (.inr rfl)
    | integer => exact misfit_of_forall_ne_text (by simp [Token.payload]) (.inr rfl)
  | identifier text =>
    cases kind with
    | fixed => exact .carried (by simp [Token.payload])
    | identifier => exact absurd rfl other
    | integer => exact misfit_integer_of_identifier constructible
  | integer digits =>
    cases kind with
    | fixed => exact .carried (by simp [Token.payload])
    | identifier => exact misfit_identifier_of_integer constructible
    | integer => exact absurd rfl other

/-- The kind of a constructible token can be replaced by itself, and by another kind where neither
carries a text. -/
theorem exists_replace_kind_iff (constructible : token.Constructible) :
    (∃ made, token.replace (some kind) none = .ok made) ↔
      kind = token.kind ∨ kind.carriesText = false ∧ token.kind.carriesText = false := by
  by_cases same : kind = token.kind
  · subst same
    exact iff_of_true ⟨token, build_of_constructible constructible⟩ (.inl rfl)
  · by_cases marks : kind.carriesText = false ∧ token.kind.carriesText = false
    · refine iff_of_true ?_ (.inr marks)
      obtain ⟨wanted, had⟩ := marks
      cases token with
      | fixed mark => exact exists_build_absent_iff.2 wanted
      | identifier => contradiction
      | integer => contradiction
    · have misfit := misfit_of_ne_kind constructible same marks
      exact iff_of_false misfit.not_exists_build (not_or.2 ⟨same, marks⟩)

/-- The text of a token can be taken away where there is none, and replaced by a text that fits the
kind. -/
theorem exists_replace_payload_iff :
    (∃ made, token.replace none (some payload) = .ok made) ↔
      payload = .absent ∧ token.kind.carriesText = false ∨
        ∃ text, payload = .text text ∧ ∃ made, build token.kind (.text text) = .ok made := by
  change (∃ made, build token.kind payload = .ok made) ↔ _
  cases payload with
  | text value => simp
  | foreign =>
    have misfit : Misfit token.kind .foreign :=
      misfit_of_forall_ne_text (by simp) (.inl (by simp))
    exact iff_of_false misfit.not_exists_build (by simp)
  | absent =>
    rw [exists_build_absent_iff]
    simp

end Token

namespace Session

variable {tokens : List Token} {position : Int} {token : Token}

/-- The changes that replace some fields of a token by a kind and a payload. -/
def Changes.ofFields (kind : Option Kind) (payload : Option Payload) : Changes where
  kindName := kind.map Kind.name
  payload := payload

/-- A step that replaces fields of a token puts the token at the end that is made from it. -/
theorem Step.perform_replace (found : tokenAt tokens position = .ok token) (kind : Option Kind)
    (payload : Option Payload) :
    (Step.replace position (.ofFields kind payload)).perform tokens =
      append tokens ((token.replace kind payload).mapError .build) := by
  have named : (Changes.ofFields kind payload).kind? = .ok kind := by
    cases kind with
    | none => rfl
    | some kind => simp only [Changes.kind?, Changes.ofFields, Option.map_some, Kind.named_name]
  rw [Step.perform, named, found]
  rfl

end Session

/-- The kind of a constructible token can be replaced exactly by itself, or by another kind where
neither carries a text; its text exactly by what fits the kind; and both together exactly where a
token is built from them, which is the same then. A refusal names the new kind, and a session that
replaces fields of a token answers with the refusal and keeps its tokens, or puts the new token
behind them. -/
theorem replacement_succeeds_exactly_where_fields_fit {token : Token}
    (constructible : token.Constructible) :
    (∀ kind, (∃ made, token.replace (some kind) none = .ok made) ↔
      kind = token.kind ∨ kind.carriesText = false ∧ token.kind.carriesText = false) ∧
    (∀ payload, (∃ made, token.replace none (some payload) = .ok made) ↔
      payload = .absent ∧ token.kind.carriesText = false ∨
        ∃ text, payload = .text text ∧ ∃ made, Token.build token.kind (.text text) = .ok made) ∧
    (∀ kind payload, token.replace (some kind) (some payload) = Token.build kind payload) ∧
    ∀ kind payload tokens position, Session.tokenAt tokens position = .ok token →
      let step := Session.Step.replace position (.ofFields kind payload)
      (∀ error, token.replace kind payload = .error error →
        error.Explains (kind.getD token.kind) ∧
          step.answer tokens = .error (.build error) ∧ step.after tokens = tokens) ∧
      ∀ made, token.replace kind payload = .ok made →
        step.answer tokens = .ok (.token made) ∧ step.after tokens = tokens ++ [made] := by
  refine ⟨fun kind => Token.exists_replace_kind_iff constructible,
    fun payload => Token.exists_replace_payload_iff, fun kind payload => rfl, ?_⟩
  intro kind payload tokens position found step
  have performed : step.perform tokens = Session.append tokens
      ((token.replace kind payload).mapError .build) :=
    Session.Step.perform_replace found kind payload
  constructor
  · intro error failed
    have explained : error.Explains (kind.getD token.kind) := by
      rw [← Token.kind_of_build_error failed]
      exact error.explains
    have answered : step.answer tokens = .error (.build error) := by
      rw [Session.Step.answer, performed, failed]
      rfl
    exact ⟨explained, answered, Session.Step.after_of_answer_error answered⟩
  · intro made replaced
    rw [Session.Step.answer, Session.Step.after, performed, replaced]
    exact ⟨rfl, rfl⟩

/-- An identifier does not become an integer by its kind alone, and does with digits beside it; the
refused step leaves the identifier where it was. -/
theorem replacement_succeeds_exactly_where_fields_fit_identifier :
    (Token.identifier "x1").Constructible ∧
    (¬∃ made, (Token.identifier "x1").replace (some .integer) none = .ok made) ∧
    (Token.identifier "x1").replace (some .integer) (some (.text "1")) = .ok (.integer "1") ∧
    Session.tokenAt [.identifier "x1"] (-1) = .ok (.identifier "x1") ∧
    (Token.identifier "x1").replace (some .integer) none = .error (.notDigits "x1") ∧
    (BuildError.notDigits "x1").Explains .integer ∧
    (Session.Step.replace (-1) (.ofFields (some .integer) none)).after [.identifier "x1"] =
      [.identifier "x1"] := by
  have constructible : (Token.identifier "x1").Constructible :=
    Token.constructible_identifier_iff.2 (by decide)
  obtain ⟨kinds, _, both, steps⟩ := replacement_succeeds_exactly_where_fields_fit constructible
  have found : Session.tokenAt [.identifier "x1"] (-1) = .ok (.identifier "x1") := by decide
  have failed : (Token.identifier "x1").replace (some .integer) none =
      .error (.notDigits "x1") := by decide
  have together : (Token.identifier "x1").replace (some .integer) (some (.text "1")) =
      .ok (.integer "1") := (both .integer (.text "1")).trans (by decide)
  obtain ⟨explained, _, kept⟩ := (steps (some .integer) none _ (-1) found).1 _ failed
  refine ⟨constructible, fun made => ?_, together, found, failed, explained, kept⟩
  rcases (kinds .integer).1 made with same | ⟨noText, _⟩
  · cases same
  · cases noText

end Lexis
