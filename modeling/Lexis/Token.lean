import Lexis.Spelling
import Lexis.Text.Unseen
import Lexis.Report

/-!
# Tokens

A token is a mark, an identifier with its text or an integer with its digits. The type says which
tokens carry text; which texts they may carry is said by `Token.build`, the only way to make a
token from a kind and a payload of any sort. It refuses a payload where there is none to carry, a
missing one where there is, digits that are not digits, and an identifier that has the spelling of
another token (`isReserved`). Each refusal is a cause of its own, worded in one place.

A token has four texts: its type name, its literal (the text it stands for), its rendering, which
puts both into a fixed frame and escapes nothing, and its display, which quotes.
-/

namespace Lexis

/-- A classified lexeme. -/
inductive Token where
  /-- A token that is its mark and nothing else. -/
  | fixed (mark : Mark)
  /-- A name, as it was written. -/
  | identifier (text : String)
  /-- An unsigned decimal integer, as it was written. -/
  | integer (digits : String)
deriving DecidableEq, Repr

/-- What is handed over as the text of a token. -/
inductive Payload where
  | absent
  /-- A text, which may be empty. -/
  | text (value : String)
  /-- Something that is not a text. -/
  | foreign
deriving DecidableEq, Repr

/-- Why a token is not made. -/
inductive BuildError where
  | identifierWithoutText
  | integerWithoutText
  /-- The text of an integer is not a run of digits. -/
  | notDigits (text : String)
  /-- The text of an identifier is the spelling of another token. -/
  | reserved (text : String)
  /-- A mark is given a payload. -/
  | payloadOnMark (mark : Mark)
deriving DecidableEq, Repr

/-- A text that stands for another token than an identifier: a reserved word, a pair or a run of
digits. Symbols are not among them, because a lone symbol never reaches the classification of
words. -/
def isReserved (text : String) : Bool :=
  (Mark.spelled? Mark.words text).isSome || (Mark.spelled? Mark.pairs text).isSome ||
    isDigitRun text

namespace BuildError

/-- The kind of the token that was to be made. -/
def kind : BuildError → Kind
  | .identifierWithoutText | .reserved _ => .identifier
  | .integerWithoutText | .notDigits _ => .integer
  | .payloadOnMark mark => .fixed mark

/-- What is wrong. -/
def message (error : BuildError) : String :=
  match error with
  | .identifierWithoutText | .integerWithoutText =>
    error.kind.name ++ " token requires a string payload"
  | .notDigits text =>
    error.kind.name ++ " token payload " ++ Text.quote text ++ " is not a run of ASCII digits"
  | .reserved text => error.kind.name ++ " token payload " ++ Text.quote text ++ " is reserved"
  | .payloadOnMark _ => error.kind.name ++ " token cannot carry a payload"

/-- What to do about it. -/
def hint : BuildError → String
  | .identifierWithoutText => "use from_str() or Token.ident()"
  | .integerWithoutText => "use from_str() or Token.integer()"
  | .notDigits _ => "integer literals are non-empty runs of 0-9"
  | .reserved text => "use from_str(" ++ Text.quote text ++ ") to classify it"
  | .payloadOnMark _ => "fixed-literal tokens take their text from FIXED_LITERALS"

/-- The refusal in words. -/
def report (error : BuildError) : Report :=
  ⟨error.message, some error.hint, some error.kind.name⟩

end BuildError

namespace Token

/-- The token of an unknown symbol. -/
def illegal : Token := .fixed (.sentinel .illegal)

/-- The token that ends the input. -/
def eof : Token := .fixed (.sentinel .eof)

/-- Make a token of a kind with a payload. -/
def build : Kind → Payload → Except BuildError Token
  | .fixed mark, .absent => .ok (.fixed mark)
  | .fixed mark, _ => .error (.payloadOnMark mark)
  | .identifier, .text text =>
    if isReserved text then .error (.reserved text) else .ok (.identifier text)
  | .identifier, _ => .error .identifierWithoutText
  | .integer, .text text =>
    if isDigitRun text then .ok (.integer text) else .error (.notDigits text)
  | .integer, _ => .error .integerWithoutText

/-- The kind of a token. -/
def kind : Token → Kind
  | .fixed mark => .fixed mark
  | .identifier _ => .identifier
  | .integer _ => .integer

/-- The text that a token carries, if it carries one. -/
def text? : Token → Option String
  | .fixed _ => none
  | .identifier text => some text
  | .integer digits => some digits

/-- The payload that a token would be made from. -/
def payload : Token → Payload
  | .fixed _ => .absent
  | .identifier text => .text text
  | .integer digits => .text digits

/-- Make a token from another one: what is not replaced stays, and the whole is checked like any
token that is built. -/
def replace (token : Token) (kind : Option Kind) (payload : Option Payload) :
    Except BuildError Token :=
  build (kind.getD token.kind) (payload.getD token.payload)

/-- The type name of a token. -/
def typeName (token : Token) : String := token.kind.typeName

/-- The text that a token stands for. -/
def literal : Token → String
  | .fixed mark => mark.spelling
  | .identifier text => text
  | .integer digits => digits

/-- The rendering of a token: its type name and its literal in a fixed frame, unescaped. -/
def render (token : Token) : String :=
  "\x7btype: " ++ token.typeName ++ ", literal: \"" ++ token.literal ++ "\"\x7d"

/-- The display of a token, where the characters from U+0080 on that satisfy the given condition
are written by their number. -/
def displayWith (unseen : Char → Bool) (token : Token) : String :=
  match token.text? with
  | none => "Token(" ++ token.kind.name ++ ")"
  | some text => "Token(" ++ token.kind.name ++ ", " ++ Text.quoteWith unseen text ++ ")"

/-- The display of a list of tokens, in the same sense. -/
def displayListWith (unseen : Char → Bool) (tokens : List Token) : String :=
  "[" ++ ", ".intercalate (tokens.map (displayWith unseen)) ++ "]"

/-- The display of a token, in which every character can be seen. -/
def display (token : Token) : String := token.displayWith Text.isUnseen

/-- The display of a list of tokens, in which every character can be seen. -/
def displayList (tokens : List Token) : String := displayListWith Text.isUnseen tokens

/-- A token that is built has the kind asked for, and carries the payload that was given. -/
theorem kind_and_payload_of_build {kind : Kind} {payload : Payload} {token : Token}
    (built : build kind payload = .ok token) : token.kind = kind ∧ token.payload = payload := by
  unfold build at built
  split at built
  · cases built
    exact ⟨rfl, rfl⟩
  · cases built
  · split at built
    · cases built
    · cases built
      exact ⟨rfl, rfl⟩
  · cases built
  · split at built
    · cases built
      exact ⟨rfl, rfl⟩
    · cases built
  · cases built

end Token

end Lexis
