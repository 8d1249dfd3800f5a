import Lexis.Token
import Lexis.Log

/-!
# Classification

A lexeme is classified along one of two routes. A single character that is no part of a word is
looked up among the symbols, and is illegal if it is not there. Every other text is a pair, a
reserved word, an integer or an identifier. A list of lexemes is classified one by one: a lexeme's
token depends on that lexeme and the options alone, nothing is ever refused, and at most one end
of input is added behind the last token. Each batch leaves one log record, which counts lexemes
and illegal tokens.
-/

namespace Lexis

/-- How lexemes are classified. -/
structure Options where
  /-- An empty lexeme is illegal, instead of an identifier without characters. -/
  emptyIsIllegal : Bool := false
  /-- The tokens end with the end of input, which is added where it is missing. -/
  appendEof : Bool := false
deriving DecidableEq, Repr

/-- Classify a symbol: any text that is not the single character of a mark is illegal. -/
def Token.ofSymbol (text : String) : Token :=
  match Mark.spelled? Mark.symbols text with
  | some mark => .fixed mark
  | none => .illegal

/-- Classify a word: a pair or a reserved word by its spelling, then a run of digits, and any other
text as an identifier. The empty text is an identifier unless it is to be illegal. -/
def Token.ofWord (emptyIsIllegal : Bool) (text : String) : Token :=
  match (Mark.spelled? Mark.pairs text).or (Mark.spelled? Mark.words text) with
  | some mark => .fixed mark
  | none =>
    if isDigitRun text then .integer text
    else if text = "" ∧ emptyIsIllegal then .illegal
    else .identifier text

/-- A single character that is no part of a word. -/
def isLoneSymbol (unit : String) : Bool :=
  match unit.toList with
  | [character] => !isWordCharacter character
  | _ => false

namespace Options

/-- Classify one lexeme. -/
def token (options : Options) (unit : String) : Token :=
  if isLoneSymbol unit then .ofSymbol unit else .ofWord options.emptyIsIllegal unit

/-- Add the end of input where the options ask for it and the tokens do not end with it. -/
def close (options : Options) (tokens : List Token) : List Token :=
  if options.appendEof && tokens.getLast? != some .eof then tokens ++ [.eof] else tokens

/-- The names of the fields with their values, in order. -/
def display (options : Options) : String :=
  "ClassifierOptions(empty_as_illegal=" ++ truth options.emptyIsIllegal ++ ", append_eof=" ++
    truth options.appendEof ++ ")"
where
  /-- A truth value, in a word with a capital letter. -/
  truth (value : Bool) : String := if value then "True" else "False"

end Options

/-- Classify a list of lexemes. -/
def classify (options : Options) (units : List String) : List Token :=
  options.close (units.map options.token)

/-- The tokens of a list of lexemes, and what is logged about them. -/
structure Batch where
  /-- The tokens. -/
  tokens : List Token
  /-- The log records, in order. -/
  log : List LogRecord
deriving DecidableEq, Repr

/-- Classify a list of lexemes and log how many there were and how many tokens are illegal. -/
def classifyBatch (options : Options) (units : List String) : Batch :=
  let tokens := classify options units
  ⟨tokens, [.classified units.length (tokens.count .illegal)]⟩

/-- Without an end of input to add, the tokens are those of the lexemes. -/
theorem classify_of_not_appendEof {options : Options} (off : options.appendEof = false)
    (units : List String) : classify options units = units.map options.token := by
  simp [classify, Options.close, off]

end Lexis
