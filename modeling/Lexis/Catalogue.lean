import Lexis.Classification
import Lexis.Command.Usage
import Lexis.Outcome

/-!
# The catalogue

The tables of the vocabulary by the names under which they are published. Tables of pairs keep the
order in which their rows are defined; sets have no order of their own and are listed by code
point.
-/

namespace Lexis

/-- A published table. -/
inductive Table where
  /-- A row for each key, in order. -/
  | pairs (rows : List (String × String))
  /-- A number for each name, in order. -/
  | numbers (rows : List (String × Nat))
  /-- The members of a set, by code point. -/
  | members (names : List String)
  /-- The version, the author and the public names. -/
  | release (version author : String) (names : List String)
deriving DecidableEq, Repr

namespace Catalogue

/-- The author named by the release. -/
def author : String := "Blaz Contributors"

/-- The public names, in order. -/
def publicNames : List String :=
  ["__version__", "__author__", "BlazError", "TokenError", "TokenKind", "Token",
    "ClassifierOptions", "ILLEGAL", "EOF", "FIXED_LITERALS", "SINGLE_CHAR_TOKENS", "TWO_CHAR_OPS",
    "KEYWORDS", "TYPE_NAMES", "from_char", "from_str", "token_type", "literal", "render",
    "classify_lexemes"]

/-- Marks by their spelling. -/
def bySpelling (marks : List Mark) : Table :=
  .pairs (marks.map fun mark => (mark.spelling, mark.name))

/-- The names of the kinds that satisfy a condition. -/
def namesOf (condition : Kind → Bool) : Table :=
  .members (((Kind.all.filter condition).map Kind.name).mergeSort fun first second =>
    first ≤ second)

/-- The characters of ASCII that satisfy a condition. -/
def charactersOf (condition : Char → Bool) : Table :=
  .members ((((List.range 128).map Char.ofNat).filter condition).map String.singleton)

/-- Every published table with its name. -/
def tables : List (String × Table) :=
  [("FIXED_LITERALS", .pairs (Mark.all.map fun mark => (mark.name, mark.spelling))),
    ("SINGLE_CHAR_TOKENS", bySpelling Mark.symbols),
    ("TWO_CHAR_OPS", bySpelling Mark.pairs),
    ("KEYWORDS", bySpelling Mark.words),
    ("TYPE_NAMES", .pairs (Kind.all.map fun kind => (kind.name, kind.typeName))),
    ("SENTINELS", namesOf Kind.isSentinel),
    ("PAYLOAD_KINDS", namesOf Kind.carriesText),
    ("OPERATORS", namesOf Kind.isOperator),
    ("DELIMITERS", namesOf Kind.isDelimiter),
    ("KEYWORD_KINDS", namesOf Kind.isKeyword),
    ("WORD_CHARS", charactersOf isWordCharacter),
    ("ASCII_DIGITS", charactersOf Char.isDigit),
    ("TokenKind", .numbers (Kind.all.map fun kind => (kind.name, kind.number))),
    ("ExitCode", .numbers (Exit.all.map fun exit => (exit.name, exit.code))),
    ("exports", .release Command.version author publicNames)]

/-- The table with a name, if there is one. -/
def table? (name : String) : Option Table :=
  (tables.find? fun entry => entry.1 == name).map Prod.snd

end Catalogue

end Lexis
