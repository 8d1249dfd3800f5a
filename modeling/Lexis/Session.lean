import Lexis.Classification
import Lexis.Field
import Lexis.Kind.Lookup

/-!
# Sessions

A session grows a list of tokens step by step. A step that makes a token puts it at the end, a
step that asks leaves the list as it is, and only a reclassification, which classifies the literals
of all tokens anew, replaces it. A step that fails answers with the reason and leaves the list as
it is, so a failure in the middle does not end the session. Positions count from the start, or
from the end where they are negative.
-/

namespace Lexis.Session

/-- Why a step fails. -/
inductive StepError where
  /-- No kind has the name or number. -/
  | kind (error : KindError)
  /-- The token cannot be made. -/
  | build (error : BuildError)
  /-- A field is named that cannot be. -/
  | field (error : FieldError)
  | noToken (position : Int)
deriving DecidableEq, Repr

/-- The wording of a failure. -/
def StepError.message : StepError → String
  | .kind error => error.message
  | .build error => error.report.text
  | .field error => error.message
  | .noToken _ => "list index out of range"

/-- A way to make a token from nothing. -/
inductive Making where
  | ofSymbol (text : String)
  | ofWord (text : String) (emptyIsIllegal : Bool)
  /-- Build a token of the kind with a name. -/
  | build (kindName : String) (payload : Payload)
  | identifier (payload : Payload)
  | integer (payload : Payload)
  | sentinel (member : Sentinel)
deriving DecidableEq, Repr

/-- The fields of a token that are to be replaced. -/
structure Changes where
  kindName : Option String := none
  payload : Option Payload := none
  /-- A field that tokens do not have. -/
  unknownField : Option String := none
deriving DecidableEq, Repr

/-- One step. -/
inductive Step where
  | make (making : Making)
  /-- Make a token from another one, with some fields replaced. -/
  | replace (position : Int) (changes : Changes)
  /-- Try to give a field of a token another content. -/
  | assign (position : Int) (field : String)
  /-- Try to take a field away from a token. -/
  | delete (position : Int) (field : String)
  | compare (left right : Int)
  /-- Ask where the first token equal to a token is, and how many there are. -/
  | locate (position : Int)
  | distinct
  | list
  /-- Classify the literals of all tokens anew, with the options that some named fields make. -/
  | reclassify (fields : List (String × Bool))
deriving DecidableEq, Repr

/-- What a step answers. -/
inductive Answer where
  | token (token : Token)
  | equal (equal : Bool)
  /-- The first position of an equal token and the number of equal tokens. -/
  | located (first count : Nat)
  /-- Each token once, in the order of first occurrence. -/
  | distinct (tokens : List Token)
  | listed (tokens : List Token)
  /-- The tokens that replace the list, what was logged, and whether the list is still the same. -/
  | reclassified (batch : Batch) (same : Bool)
deriving DecidableEq, Repr

def Making.token : Making → Except StepError Token
  | .ofSymbol text => .ok (.ofSymbol text)
  | .ofWord text emptyIsIllegal => .ok (.ofWord emptyIsIllegal text)
  | .build kindName payload =>
    match Kind.named kindName with
    | .error error => .error (.kind error)
    | .ok kind => (Token.build kind payload).mapError .build
  | .identifier payload => (Token.build .identifier payload).mapError .build
  | .integer payload => (Token.build .integer payload).mapError .build
  | .sentinel member => .ok (.fixed (.sentinel member))

/-- The kind that some changes name, if they name one. -/
def Changes.kind? (changes : Changes) : Except StepError (Option Kind) :=
  match changes.kindName with
  | none => .ok none
  | some name =>
    match Kind.named name with
    | .ok kind => .ok (some kind)
    | .error error => .error (.kind error)

/-- Make a token from another one, where the kind that the changes name is known. -/
def Changes.token (changes : Changes) (kind : Option Kind) (token : Token) :
    Except StepError Token :=
  match changes.unknownField with
  | some field => .error (.field (.notField "Token" field))
  | none => (token.replace kind changes.payload).mapError .build

/-- The token at a position. -/
def tokenAt (tokens : List Token) (position : Int) : Except StepError Token :=
  let index := if position < 0 then position + tokens.length else position
  if index < 0 then .error (.noToken position)
  else
    match tokens[index.toNat]? with
    | some token => .ok token
    | none => .error (.noToken position)

/-- Each token once, in the order of first occurrence. -/
def firstOccurrences : List Token → List Token
  | [] => []
  | token :: rest => token :: (firstOccurrences rest).filter (· != token)

/-- The literals of all tokens, classified anew. -/
def reclassification (options : Options) (tokens : List Token) : Batch :=
  classifyBatch options (tokens.map Token.literal)

/-- A step that makes a token puts it at the end of the list. -/
def append (tokens : List Token) (made : Except StepError Token) :
    Except StepError (Answer × List Token) :=
  made.map fun token => (.token token, tokens ++ [token])

/-- The answer of a step with the list after it, or the reason why the step fails. -/
def Step.perform (tokens : List Token) : Step → Except StepError (Answer × List Token)
  | .make making => append tokens making.token
  | .replace position changes => do
    let kind ← changes.kind?
    let token ← tokenAt tokens position
    append tokens (changes.token kind token)
  | .assign position field => do
    let _ ← tokenAt tokens position
    .error (.field (.assigned field))
  | .delete position field => do
    let _ ← tokenAt tokens position
    .error (.field (.deleted field))
  | .compare left right => do
    let first ← tokenAt tokens left
    let second ← tokenAt tokens right
    .ok (.equal (first == second), tokens)
  | .locate position => do
    let token ← tokenAt tokens position
    .ok (.located (tokens.idxOf token) (tokens.count token), tokens)
  | .distinct => .ok (.distinct (firstOccurrences tokens), tokens)
  | .list => .ok (.listed tokens, tokens)
  | .reclassify fields => do
    let options ← (Options.ofFields fields).mapError .field
    let batch := reclassification options tokens
    .ok (.reclassified batch (batch.tokens == tokens), batch.tokens)

/-- The list after a step; a step that fails leaves it as it is. -/
def Step.after (tokens : List Token) (step : Step) : List Token :=
  match step.perform tokens with
  | .ok (_, after) => after
  | .error _ => tokens

/-- The answer of a step, or the reason why it fails. -/
def Step.answer (tokens : List Token) (step : Step) : Except StepError Answer :=
  (step.perform tokens).map Prod.fst

/-- The answers of some steps, in order. -/
def answers : List Token → List Step → List (Except StepError Answer)
  | _, [] => []
  | tokens, step :: rest => step.answer tokens :: answers (step.after tokens) rest

/-- The list after some steps. -/
def after (tokens : List Token) (steps : List Step) : List Token := steps.foldl Step.after tokens

/-- A step that fails leaves the list as it is. -/
theorem Step.after_of_error {tokens : List Token} {step : Step} {error : StepError}
    (failed : step.perform tokens = .error error) : step.after tokens = tokens := by
  simp [Step.after, failed]

end Lexis.Session
