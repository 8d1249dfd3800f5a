import Lexis.Proofs.Reclassification

/-!
# What a session keeps

A step leaves the list as it is, puts one constructible token at its end, or is a reclassification,
which replaces the list by classified tokens (`Step.after_cases`). Nothing else can happen, so a run
of any length holds constructible tokens only, and between two reclassifications the list grows at
its end alone.
-/

namespace Lexis.Session

theorem bind_eq_ok {α β ε : Type} {first : Except ε α} {next : α → Except ε β} {result : β}
    (succeeded : first >>= next = .ok result) :
    ∃ value, first = .ok value ∧ next value = .ok result := by
  cases first with
  | error error => contradiction
  | ok value => exact ⟨value, rfl, succeeded⟩

theorem mapError_eq_ok {α ε δ : Type} {computation : Except ε α} {word : ε → δ} {result : α}
    (succeeded : computation.mapError word = .ok result) : computation = .ok result := by
  cases computation with
  | error error => contradiction
  | ok value => exact congrArg Except.ok (Except.ok.inj succeeded)

/-- A token made from nothing is constructible. -/
theorem Making.constructible_of_token {making : Making} {token : Token}
    (made : making.token = .ok token) : token.Constructible := by
  cases making with
  | ofSymbol text =>
    obtain rfl := Except.ok.inj made
    exact Token.constructible_ofSymbol text
  | ofWord text emptyIsIllegal =>
    obtain rfl := Except.ok.inj made
    exact Token.constructible_ofWord emptyIsIllegal text
  | build kindName payload =>
    rw [Making.token] at made
    split at made
    · contradiction
    · rename_i kind _
      exact ⟨kind, payload, mapError_eq_ok made⟩
  | identifier payload => exact ⟨.identifier, payload, mapError_eq_ok made⟩
  | integer payload => exact ⟨.integer, payload, mapError_eq_ok made⟩
  | sentinel member =>
    obtain rfl := Except.ok.inj made
    exact Token.constructible_fixed (.sentinel member)

/-- A token made from another one is constructible. -/
theorem Changes.constructible_of_token {changes : Changes} {kind : Option Kind}
    {token made : Token} (replaced : changes.token kind token = .ok made) :
    made.Constructible := by
  rw [Changes.token] at replaced
  split at replaced
  · contradiction
  · exact Token.constructible_of_replace (mapError_eq_ok replaced)

/-- A step that makes a token succeeds when the token is made, and puts it at the end. -/
theorem append_eq_ok {tokens grown : List Token} {made : Except StepError Token} {answer : Answer}
    (appended : append tokens made = .ok (answer, grown)) :
    ∃ token, made = .ok token ∧ grown = tokens ++ [token] := by
  cases made with
  | error error => contradiction
  | ok token =>
    obtain ⟨rfl, rfl⟩ := Prod.mk.inj (Except.ok.inj appended)
    exact ⟨token, rfl, rfl⟩

/-- What a step that succeeds does to the list. -/
theorem Step.perform_eq_ok {tokens grown : List Token} {step : Step} {answer : Answer}
    (performed : step.perform tokens = .ok (answer, grown)) :
    grown = tokens ∨ (∃ token, token.Constructible ∧ grown = tokens ++ [token]) ∨
      ∃ (fields : List (String × Bool)) (options : Options),
        step = .reclassify fields ∧ grown = options.reclassify tokens := by
  cases step with
  | make making =>
    obtain ⟨token, made, rfl⟩ := append_eq_ok performed
    exact .inr (.inl ⟨token, Making.constructible_of_token made, rfl⟩)
  | replace position changes =>
    obtain ⟨kind, _, performed⟩ := bind_eq_ok performed
    obtain ⟨token, _, performed⟩ := bind_eq_ok performed
    obtain ⟨made, replaced, rfl⟩ := append_eq_ok performed
    exact .inr (.inl ⟨made, Changes.constructible_of_token replaced, rfl⟩)
  | assign position field =>
    obtain ⟨token, _, performed⟩ := bind_eq_ok performed
    contradiction
  | delete position field =>
    obtain ⟨token, _, performed⟩ := bind_eq_ok performed
    contradiction
  | compare left right =>
    obtain ⟨first, _, performed⟩ := bind_eq_ok performed
    obtain ⟨second, _, performed⟩ := bind_eq_ok performed
    exact .inl (Prod.mk.inj (Except.ok.inj performed)).2.symm
  | locate position =>
    obtain ⟨token, _, performed⟩ := bind_eq_ok performed
    exact .inl (Prod.mk.inj (Except.ok.inj performed)).2.symm
  | distinct => exact .inl (Prod.mk.inj (Except.ok.inj performed)).2.symm
  | list => exact .inl (Prod.mk.inj (Except.ok.inj performed)).2.symm
  | reclassify fields =>
    obtain ⟨options, _, performed⟩ := bind_eq_ok performed
    exact .inr (.inr ⟨fields, options, rfl, (Prod.mk.inj (Except.ok.inj performed)).2.symm⟩)

/-- What a step does to the list, whether it succeeds or fails. -/
theorem Step.after_cases (tokens : List Token) (step : Step) :
    step.after tokens = tokens ∨
      (∃ token, token.Constructible ∧ step.after tokens = tokens ++ [token]) ∨
      ∃ (fields : List (String × Bool)) (options : Options),
        step = .reclassify fields ∧ step.after tokens = options.reclassify tokens := by
  unfold Step.after
  split
  · rename_i performed
    exact Step.perform_eq_ok performed
  · exact .inl rfl

/-- A step keeps the tokens of a list constructible. -/
theorem Step.constructible_after {tokens : List Token}
    (constructible : ∀ token ∈ tokens, token.Constructible) (step : Step) :
    ∀ token ∈ step.after tokens, token.Constructible := by
  rcases step.after_cases tokens with same | ⟨made, built, grown⟩ | ⟨_, options, _, replaced⟩
  · rw [same]
    exact constructible
  · intro token listed
    rw [grown, List.mem_append, List.mem_singleton] at listed
    rcases listed with listed | rfl
    · exact constructible token listed
    · exact built
  · intro token listed
    rw [replaced] at listed
    obtain ⟨unit, _, rfl⟩ := Options.mem_classify listed
    exact options.constructible_token unit

/-- A run keeps the tokens of a list constructible. -/
theorem constructible_after {tokens : List Token}
    (constructible : ∀ token ∈ tokens, token.Constructible) (steps : List Step) :
    ∀ token ∈ after tokens steps, token.Constructible := by
  induction steps generalizing tokens with
  | nil => exact constructible
  | cons step rest ih => exact ih (step.constructible_after constructible)

/-- The step classifies all tokens anew. -/
def Step.isReclassification : Step → Bool
  | .reclassify _ => true
  | _ => false

/-- A step that is no reclassification keeps the list as the start of the later one. -/
theorem Step.prefix_after {step : Step} (keeps : step.isReclassification = false)
    (tokens : List Token) : tokens <+: step.after tokens := by
  rcases step.after_cases tokens with same | ⟨made, _, grown⟩ | ⟨fields, _, rfl, _⟩
  · exact ⟨[], by rw [same, List.append_nil]⟩
  · rw [grown]
    exact List.prefix_append tokens [made]
  · contradiction

/-- A run without reclassification keeps the list as the start of the later one. -/
theorem prefix_after {steps : List Step}
    (keeps : ∀ step ∈ steps, step.isReclassification = false) (tokens : List Token) :
    tokens <+: after tokens steps := by
  induction steps generalizing tokens with
  | nil => exact List.prefix_refl tokens
  | cons step rest ih =>
    have first := Step.prefix_after (keeps step List.mem_cons_self) tokens
    exact first.trans (ih (fun later listed => keeps later (List.mem_cons_of_mem step listed)) _)

theorem after_append (tokens : List Token) (steps more : List Step) :
    after tokens (steps ++ more) = after (after tokens steps) more :=
  List.foldl_append

/-- The token at a position is missing for no other reason than the position. -/
theorem tokenAt_eq_error {tokens : List Token} {position : Int} {error : StepError}
    (failed : tokenAt tokens position = .error error) : error = .noToken position := by
  unfold tokenAt at failed
  extract_lets index at failed
  split at failed
  · exact (Except.error.inj failed).symm
  · split at failed
    · contradiction
    · exact (Except.error.inj failed).symm

/-- Naming a field of a token fails: for the field where the token is there, and otherwise for the
position. -/
theorem answer_field_cases (tokens : List Token) (position : Int) (field : String) :
    ((∃ token, tokenAt tokens position = .ok token) ∧
      (Step.assign position field).answer tokens = .error (.field (.assigned field)) ∧
      (Step.delete position field).answer tokens = .error (.field (.deleted field))) ∨
    (tokenAt tokens position = .error (.noToken position) ∧
      (Step.assign position field).answer tokens = .error (.noToken position) ∧
      (Step.delete position field).answer tokens = .error (.noToken position)) := by
  rw [Step.answer, Step.answer, Step.perform, Step.perform]
  cases found : tokenAt tokens position with
  | ok token => exact .inl ⟨⟨token, rfl⟩, rfl, rfl⟩
  | error missing =>
    obtain rfl := tokenAt_eq_error found
    exact .inr ⟨rfl, rfl, rfl⟩

/-- A step whose answer is a failure leaves the list as it is. -/
theorem Step.after_of_answer_error {tokens : List Token} {step : Step} {error : StepError}
    (failed : step.answer tokens = .error error) : step.after tokens = tokens := by
  rw [Step.answer] at failed
  cases performed : step.perform tokens with
  | ok result =>
    rw [performed] at failed
    contradiction
  | error other => exact Step.after_of_error performed

/-- A step that makes a token puts it at the end. -/
theorem Step.after_make {making : Making} {token : Token} (made : making.token = .ok token)
    (tokens : List Token) : (Step.make making).after tokens = tokens ++ [token] := by
  have performed : (Step.make making).perform tokens = .ok (.token token, tokens ++ [token]) := by
    rw [Step.perform, append, made]
    rfl
  rw [Step.after, performed]

/-- Along every run from the empty list all tokens are well-formed and their texts are defined, a
step that fails changes nothing, naming a field of a token that exists always fails, a token that is
made is put at the end, and only a reclassification touches the tokens that are already there. -/
theorem session_keeps_tokens_wellFormed (steps : List Step) :
    (∀ token ∈ after [] steps, token.WellFormed ∧ token.Described) ∧
    (∀ step error, step.answer (after [] steps) = .error error →
      after [] (steps ++ [step]) = after [] steps) ∧
    (∀ position field,
      ((∃ token, tokenAt (after [] steps) position = .ok token) ∧
        (Step.assign position field).answer (after [] steps) = .error (.field (.assigned field)) ∧
        (Step.delete position field).answer (after [] steps) = .error (.field (.deleted field))) ∨
      (tokenAt (after [] steps) position = .error (.noToken position) ∧
        (Step.assign position field).answer (after [] steps) = .error (.noToken position) ∧
        (Step.delete position field).answer (after [] steps) = .error (.noToken position))) ∧
    (∀ making token, making.token = .ok token →
      after [] (steps ++ [.make making]) = after [] steps ++ [token]) ∧
    ∀ more, (∀ step ∈ more, step.isReclassification = false) →
      after [] steps <+: after [] (steps ++ more) := by
  refine ⟨fun token listed => ?_, fun step error failed => ?_, fun position field => ?_,
    fun making token made => ?_, fun more keeps => ?_⟩
  · have constructible := constructible_after (fun _ none => absurd none List.not_mem_nil) steps
    exact ⟨Token.wellFormed_iff_constructible.2 (constructible token listed), token.described⟩
  · rw [after_append]
    exact Step.after_of_answer_error failed
  · exact answer_field_cases (after [] steps) position field
  · rw [after_append]
    exact Step.after_make made (after [] steps)
  · rw [after_append]
    exact prefix_after keeps (after [] steps)

/-- A run goes on past an identifier that is refused, and a later token goes behind the first. -/
theorem session_keeps_tokens_wellFormed_past_refusal :
    (Step.make (.identifier (.text "if"))).answer (after [] [.make (.ofWord "let" false)]) =
        .error (.build (.reserved "if")) ∧
      after [] [.make (.ofWord "let" false), .make (.identifier (.text "if"))] =
        after [] [.make (.ofWord "let" false)] ∧
      after [] [.make (.ofWord "let" false)] <+:
        after [] [.make (.ofWord "let" false), .make (.identifier (.text "if")), .list,
          .make (.sentinel .eof)] := by
  have law := session_keeps_tokens_wellFormed [.make (.ofWord "let" false)]
  have refused : (Step.make (.identifier (.text "if"))).answer
      (after [] [.make (.ofWord "let" false)]) = .error (.build (.reserved "if")) := by decide
  exact ⟨refused, law.2.1 _ _ refused, law.2.2.2.2
    [.make (.identifier (.text "if")), .list, .make (.sentinel .eof)] (by decide)⟩

end Lexis.Session
