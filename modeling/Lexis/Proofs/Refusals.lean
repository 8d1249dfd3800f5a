import Lexis.Proofs.Construction
import Lexis.Proofs.Display
import Lexis.Proofs.LineBreaks

/-!
# Refusals of construction

Construction refuses exactly the payloads that do not fit the kind (`Token.Misfit`), and the refusal
is about that kind. It is told in two lines: the message and the hint are one line each whatever
text they show (`BuildError.isOneLine_message`, `BuildError.isOneLine_hint`), because the text is
quoted. From the quoted text in the message the text itself is known again, so two texts that are
refused as digits are refused in different words.
-/

namespace Lexis

/-- The payload does not fit the kind. -/
inductive Token.Misfit : Kind → Payload → Prop where
  /-- A mark is given something to carry, which may be the empty text. -/
  | carried {mark : Mark} {payload : Payload} (given : payload ≠ .absent) :
    Misfit (.fixed mark) payload
  /-- An identifier or an integer is given no text. -/
  | noText {kind : Kind} {payload : Payload} (carries : kind = .identifier ∨ kind = .integer)
      (missing : ∀ text, payload ≠ .text text) : Misfit kind payload
  /-- The text of an integer is not a run of digits. -/
  | notDigits {text : String}
      (noRun : ¬(text ≠ "" ∧ ∀ character ∈ text.toList, character.isDigit)) :
    Misfit .integer (.text text)
  /-- The text of an identifier is a reserved word, a pair or a run of digits. -/
  | reserved {text : String}
      (taken : text ∈ Mark.words.map Mark.spelling ∨ text ∈ Mark.pairs.map Mark.spelling ∨
        text ≠ "" ∧ ∀ character ∈ text.toList, character.isDigit) :
    Misfit .identifier (.text text)

namespace Token

variable {kind : Kind} {payload : Payload} {error : BuildError}

/-- A text is refused as digits with a refusal that shows it. -/
theorem eq_notDigits_of_build {text : String}
    (failed : build .integer (.text text) = .error error) : error = .notDigits text := by
  rw [build] at failed
  split at failed
  · contradiction
  · exact (Except.error.inj failed).symm

/-- A refusal is about the kind that was asked for. -/
theorem kind_of_build_error (failed : build kind payload = .error error) : error.kind = kind := by
  unfold build at failed
  split at failed
  · contradiction
  · obtain rfl := Except.error.inj failed
    rfl
  · split at failed
    · obtain rfl := Except.error.inj failed
      rfl
    · contradiction
  · obtain rfl := Except.error.inj failed
    rfl
  · split at failed
    · contradiction
    · obtain rfl := Except.error.inj failed
      rfl
  · obtain rfl := Except.error.inj failed
    rfl

/-- A misfit is refused. -/
theorem Misfit.build_error (misfit : Misfit kind payload) :
    ∃ error, build kind payload = .error error := by
  cases misfit with
  | @carried mark payload given =>
    cases payload with
    | absent => contradiction
    | text value => exact ⟨_, rfl⟩
    | foreign => exact ⟨_, rfl⟩
  | noText carries missing =>
    cases payload with
    | text value => exact absurd rfl (missing value)
    | absent => rcases carries with rfl | rfl <;> exact ⟨_, rfl⟩
    | foreign => rcases carries with rfl | rfl <;> exact ⟨_, rfl⟩
  | notDigits noRun => exact ⟨_, if_neg (mt isDigitRun_iff.1 noRun)⟩
  | reserved taken =>
    rw [← isDigitRun_iff] at taken
    exact ⟨_, if_pos (isReserved_iff.2 taken)⟩

/-- What is refused is a misfit. -/
theorem misfit_of_build_error (failed : build kind payload = .error error) :
    Misfit kind payload := by
  cases kind with
  | fixed mark =>
    refine .carried ?_
    rintro rfl
    contradiction
  | identifier =>
    cases payload with
    | absent => exact .noText (.inl rfl) (by simp)
    | foreign => exact .noText (.inl rfl) (by simp)
    | text text =>
      rw [build] at failed
      split at failed
      · rename_i taken
        rw [isReserved_iff, isDigitRun_iff] at taken
        exact .reserved taken
      · contradiction
  | integer =>
    cases payload with
    | absent => exact .noText (.inr rfl) (by simp)
    | foreign => exact .noText (.inr rfl) (by simp)
    | text text =>
      rw [build] at failed
      split at failed
      · contradiction
      · rename_i noRun
        exact .notDigits (mt isDigitRun_iff.2 noRun)

/-- Construction refuses the misfits and nothing else. -/
theorem exists_build_error_iff :
    (∃ error, build kind payload = .error error) ↔ Misfit kind payload :=
  ⟨fun ⟨_, failed⟩ => misfit_of_build_error failed, Misfit.build_error⟩

/-- No token is built of a misfit. -/
theorem Misfit.not_exists_build (misfit : Misfit kind payload) :
    ¬∃ token, build kind payload = .ok token := by
  rintro ⟨token, built⟩
  obtain ⟨error, failed⟩ := misfit.build_error
  cases built.symm.trans failed

end Token

/-- A name is one line. -/
theorem Kind.isOneLine_name (kind : Kind) : Text.IsOneLine kind.name.toList := by
  revert kind
  exact forall_iff_all.2 (by decide)

namespace BuildError

open Text (isOneLine_append_iff isOneLine_quote)

/-- The message of a refusal is one line, whatever text it shows. -/
theorem isOneLine_message (error : BuildError) : Text.IsOneLine error.message.toList := by
  have name := error.kind.isOneLine_name
  cases error with
  | identifierWithoutText => decide
  | integerWithoutText => decide
  | notDigits text =>
    simp only [message, String.toList_append, isOneLine_append_iff]
    exact ⟨⟨⟨name, by decide⟩, isOneLine_quote text⟩, by decide⟩
  | reserved text =>
    simp only [message, String.toList_append, isOneLine_append_iff]
    exact ⟨⟨⟨name, by decide⟩, isOneLine_quote text⟩, by decide⟩
  | payloadOnMark mark =>
    simp only [message, String.toList_append, isOneLine_append_iff]
    exact ⟨name, by decide⟩

/-- The hint of a refusal is one line, whatever text it shows. -/
theorem isOneLine_hint (error : BuildError) : Text.IsOneLine error.hint.toList := by
  cases error with
  | reserved text =>
    simp only [hint, String.toList_append, isOneLine_append_iff]
    exact ⟨⟨by decide, isOneLine_quote text⟩, by decide⟩
  | _ =>
    simp only [hint]
    decide

/-- Every refusal has something to suggest. -/
theorem hint_ne_empty (error : BuildError) : error.hint ≠ "" := by
  cases error with
  | reserved text =>
    intro empty
    obtain ⟨lead, _⟩ := String.append_eq_empty_iff.1 empty
    obtain ⟨advice, _⟩ := String.append_eq_empty_iff.1 lead
    contradiction
  | _ =>
    simp only [hint]
    decide

/-- The text of a refusal is the message and the hint with their leads, with a line feed between. -/
theorem text_report (error : BuildError) :
    error.report.text = "error: " ++ error.message ++ "\n" ++ "hint: " ++ error.hint := by
  have shown : error.report.hintText = "\n" ++ "hint: " ++ error.hint := if_neg error.hint_ne_empty
  rw [Report.text, shown]
  simp only [report, String.append_assoc]

/-- The lines of a refusal are the message and the hint. -/
theorem splitLines_report (error : BuildError) :
    Text.splitLines error.report.text.toList =
      [("error: " ++ error.message).toList, ("hint: " ++ error.hint).toList] := by
  have cut : error.report.text.toList =
      ("error: " ++ error.message).toList ++ '\n' :: ("hint: " ++ error.hint).toList := by
    have feed : "\n".toList = ['\n'] := rfl
    simp only [text_report, String.toList_append, feed, List.append_assoc, List.cons_append,
      List.nil_append]
  have message : Text.IsOneLine ("error: " ++ error.message).toList := by
    rw [String.toList_append, isOneLine_append_iff]
    exact ⟨by decide, error.isOneLine_message⟩
  have hint : Text.IsOneLine ("hint: " ++ error.hint).toList := by
    rw [String.toList_append, isOneLine_append_iff]
    exact ⟨by decide, error.isOneLine_hint⟩
  rw [cut, Text.splitLines_append message, Text.splitLines_of_isOneLine hint (by simp)]

/-- Refusals with the same text have the same message, which is the first line without its lead. -/
theorem message_eq_of_text {first second : BuildError}
    (same : first.report.text = second.report.text) : first.message = second.message := by
  have lines := congrArg (fun text => Text.splitLines text.toList) same
  simp only [splitLines_report] at lines
  have firstLines := (List.cons.inj lines).1
  simp only [String.toList_append, List.append_right_inj] at firstLines
  exact String.toList_inj.1 firstLines

/-- Texts that are refused as digits in the same words are the same. -/
theorem message_notDigits_injective {left right : String}
    (same : (notDigits left).message = (notDigits right).message) : left = right := by
  have characters := congrArg String.toList same
  simp only [message, kind, String.toList_append, List.append_left_inj,
    List.append_right_inj] at characters
  exact (Text.selfDelimiting_quoteWith Text.isUnseen).injective characters

/-- What is told about a payload of a kind that does not fit: the name of the kind, and a message
and a hint on one line each. -/
structure Explains (error : BuildError) (kind : Kind) : Prop where
  kindName : error.report.kindName = some kind.name
  hint : ∃ hint, error.report.hint = some hint ∧ hint ≠ "" ∧
    error.report.text = "error: " ++ error.report.message ++ "\n" ++ "hint: " ++ hint ∧
    Text.splitLines error.report.text.toList =
      [("error: " ++ error.report.message).toList, ("hint: " ++ hint).toList]

/-- A refusal explains the kind it is about. -/
theorem explains (error : BuildError) : error.Explains error.kind where
  kindName := rfl
  hint := ⟨error.hint, rfl, error.hint_ne_empty, error.text_report, error.splitLines_report⟩

end BuildError

/-- Construction refuses a kind and a payload exactly when they do not fit. The refusal names the
kind and is told in two lines, of which the second is the hint, whatever the payload holds. Two
texts that are refused as digits are refused in different words. -/
theorem construction_refuses_misfits_in_two_lines (kind : Kind) (payload : Payload) :
    ((∃ error, Token.build kind payload = .error error) ↔ Token.Misfit kind payload) ∧
    (∀ error, Token.build kind payload = .error error → error.Explains kind) ∧
    ∀ left right first second, Token.build .integer (.text left) = .error first →
      Token.build .integer (.text right) = .error second → left ≠ right →
      first.report.message ≠ second.report.message ∧ first.report.text ≠ second.report.text := by
  refine ⟨Token.exists_build_error_iff, fun error failed => ?_, ?_⟩
  · rw [← Token.kind_of_build_error failed]
    exact error.explains
  · intro left right first second failed other different
    obtain rfl := Token.eq_notDigits_of_build failed
    obtain rfl := Token.eq_notDigits_of_build other
    have messages : (BuildError.notDigits left).message ≠ (BuildError.notDigits right).message :=
      mt BuildError.message_notDigits_injective different
    exact ⟨messages, mt BuildError.message_eq_of_text messages⟩

/-- A text with characters that end a line, refused as digits: they are written by their numbers, so
the refusal still has two lines, and another text is refused in other words. -/
theorem construction_refuses_misfits_in_two_lines_separators :
    Token.build .integer (.text "4\u2028\n2") = .error (.notDigits "4\u2028\n2") ∧
    Token.build .integer (.text "4") = .ok (.integer "4") ∧
    Token.build .integer (.text "") = .error (.notDigits "") ∧
    (BuildError.notDigits "4\u2028\n2").Explains .integer ∧
    (BuildError.notDigits "4\u2028\n2").report.text ≠ (BuildError.notDigits "").report.text ∧
    ¬Token.Misfit .integer (.text "4") := by
  have refused : Token.build .integer (.text "4\u2028\n2") = .error (.notDigits "4\u2028\n2") := by
    decide
  have refusedEmpty : Token.build .integer (.text "") = .error (.notDigits "") := by decide
  have built : Token.build .integer (.text "4") = .ok (.integer "4") := by decide
  obtain ⟨_, explained, apart⟩ :=
    construction_refuses_misfits_in_two_lines .integer (.text "4\u2028\n2")
  obtain ⟨refuses, _⟩ := construction_refuses_misfits_in_two_lines .integer (.text "4")
  have told := explained _ refused
  have different := (apart _ _ _ _ refused refusedEmpty (by decide)).2
  refine ⟨refused, built, refusedEmpty, told, different, fun misfit => ?_⟩
  obtain ⟨error, failed⟩ := refuses.2 misfit
  cases built.symm.trans failed

end Lexis
