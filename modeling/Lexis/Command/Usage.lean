import Lexis.Command.Arguments
import Lexis.Outcome
import Lexis.Text.Similarity
import Lexis.Text.Unseen

/-!
# Usage

The texts of the command about itself, and the refusals of a command line that are shown in front
of any run. An unknown long option is answered with the options that are similar to it. A refusal
shows how the command is used, unless it is about the value of an option that is known.
-/

namespace Lexis.Command

/-- The version of the command. -/
def version : String := "1.0.0"

/-- How the command is called, in one line. -/
def usageLine : String := "Usage: blaztok [OPTIONS] [LEXEMES]..."

/-- The version, in one line. -/
def versionLines : List String := ["blaztok, version " ++ version]

/-- The description of the command, line by line. -/
def helpLines : List String :=
  [usageLine,
    "",
    "  Classify Blaz lexemes into tokens.",
    "",
    "  LEXEMES are raw, already delimited lexemes. When none are given and no --file",
    "  is used, lexemes are read from standard input.",
    "",
    "  Examples:",
    "      blaztok let x = 5 \";\"        # Classify arguments",
    "      blaztok -t fn \"(\" \")\"        # Type names only",
    "      blaztok -f lexemes.txt       # Read from a file",
    "",
    "Options:",
    "  -f, --file FILE   Read whitespace-separated lexemes from a file",
    "  --strict-empty    Classify empty lexemes as Illegal instead of Identifier",
    "  --eof             Append an Eof token to the output",
    "  -t, --types-only  Print only the token type names",
    "  -v, --verbose     Verbose output",
    "  --version         Show the version and exit.",
    "  --help            Show this message and exit."]

/-- The lines of a notice. -/
def Notice.lines : Notice → List String
  | .version => versionLines
  | .help => helpLines

/-- Why a command line is refused. -/
inductive Refusal where
  /-- The arguments cannot be read. -/
  | arguments (error : ArgumentError)
  /-- The path leads nowhere. -/
  | noFile (path : String)
  /-- The path leads to a directory. -/
  | isDirectory (path : String)
deriving DecidableEq, Repr

/-- The long options that an unknown option may stand for; a short one stands for none. -/
def suggestions (name : String) : List String :=
  match name.toList with
  | '-' :: '-' :: _ => Text.Similarity.closest (longOptions.map Prod.fst) name
  | _ => []

/-- The wording of suggestions. -/
def suggestionText : List String → String
  | [] => ""
  | [option] => " Did you mean " ++ Text.quote option ++ "?"
  | several =>
    " (Did you mean one of: " ++ ", ".intercalate (several.map Text.quote) ++ "?)"

/-- The wording of an error in the arguments. -/
def ArgumentError.message : ArgumentError → String
  | .unknownOption name =>
    "No such option " ++ Text.quote name ++ "." ++ suggestionText (suggestions name)
  | .unexpectedValue name => "Option " ++ Text.quote name ++ " does not take a value."
  | .missingValue name => "Option " ++ Text.quote name ++ " requires an argument."

/-- The usage lines that are shown in front of a refusal. -/
def Refusal.usage : Refusal → List String
  | .arguments (.unexpectedValue _) | .arguments (.missingValue _) => []
  | _ => [usageLine, "Try 'blaztok --help' for help.", ""]

/-- The wording of a refusal. -/
def Refusal.message : Refusal → String
  | .arguments error => error.message
  | .noFile path =>
    "Invalid value for '-f' / '--file': File " ++ Text.quote path ++ " does not exist."
  | .isDirectory path =>
    "Invalid value for '-f' / '--file': File " ++ Text.quote path ++ " is a directory."

/-- What a refused command line leaves behind. -/
def Refusal.outcome (refusal : Refusal) : Outcome :=
  ⟨.invalidArguments, "", printedLines (refusal.usage ++ ["Error: " ++ refusal.message])⟩

/-- What a notice leaves behind. -/
def Notice.outcome (notice : Notice) : Outcome := ⟨.success, printedLines notice.lines, ""⟩

end Lexis.Command
