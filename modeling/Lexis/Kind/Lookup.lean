import Lexis.Kind
import Lexis.Text.Unseen

/-!
# Looking a kind up

A kind is asked for by its name or by its number. A request that no kind answers is an error that
shows what was asked for; a text in the place of a number is such a request.
-/

namespace Lexis

/-- Why no kind is found. -/
inductive KindError where
  /-- No kind has the name. -/
  | unknownName (name : String)
  /-- No kind has the number. -/
  | unknownNumber (number : Int)
  /-- A text is no number of a kind. -/
  | notNumber (text : String)
deriving DecidableEq, Repr

/-- What a kind is asked for by, in place of its name. -/
inductive KindKey where
  /-- A number, which may be any. -/
  | number (value : Int)
  /-- A text in the place of a number. -/
  | text (value : String)
deriving DecidableEq, Repr

/-- The wording of an error: an unknown name is only shown. -/
def KindError.message : KindError → String
  | .unknownName name => Text.quote name
  | .unknownNumber number => toString number ++ " is not a valid TokenKind"
  | .notNumber text => Text.quote text ++ " is not a valid TokenKind"

namespace Kind

/-- The kind with a name. -/
def named (name : String) : Except KindError Kind :=
  match ofName? name with
  | some kind => .ok kind
  | none => .error (.unknownName name)

/-- The kind with a number. -/
def numbered : KindKey → Except KindError Kind
  | .number value =>
    match ofNumber? value with
    | some kind => .ok kind
    | none => .error (.unknownNumber value)
  | .text value => .error (.notNumber value)

/-- The name of a kind behind the name of the vocabulary. -/
def qualifiedName (kind : Kind) : String := "TokenKind." ++ kind.name

/-- The name and the number of a kind. -/
def display (kind : Kind) : String :=
  "<" ++ kind.qualifiedName ++ ": " ++ toString kind.number ++ ">"

/-- A kind is found by its name. -/
theorem named_name (kind : Kind) : named kind.name = .ok kind := by
  simp [named, ofName?_name]

end Kind

end Lexis
