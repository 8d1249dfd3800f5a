import Lexis.Command.Invocation
import Lexis.Command.Path
import Lexis.Command.Usage
import Lexis.Fault
import Lexis.Log
import Lexis.Text.Pieces

/-!
# Runs of the command

A run is a function of its arguments, of what each path leads to and of the bytes on standard
input. The lexemes are the arguments, or the words of the file, or else the words on standard
input. Nothing is printed before every lexeme is classified, so a run that fails prints nothing on
standard output. The log is shown only by a verbose run, each record at its time, so the records
of a run that fails come before the message.
-/

namespace Lexis.Command

namespace Invocation

/-- The log as a run shows it. -/
def shown (invocation : Invocation) (log : List LogRecord) : String :=
  if invocation.verbose then String.join (log.map fun record => record.line ++ "\n") else ""

/-- The line of a token. -/
def tokenLine (invocation : Invocation) (token : Token) : String :=
  if invocation.typesOnly then token.typeName else token.render

/-- Classify some lexemes and print their tokens. -/
def classified (invocation : Invocation) (log : List LogRecord) (units : List String) : Outcome :=
  let batch := classifyBatch invocation.options units
  ⟨.success, printedLines (batch.tokens.map invocation.tokenLine),
    invocation.shown (log ++ batch.log)⟩

/-- Stop at a fault. -/
def stopped (invocation : Invocation) (log : List LogRecord) (fault : Fault) : Outcome :=
  let outcome := fault.outcome invocation.verbose
  { outcome with stderr := invocation.shown log ++ outcome.stderr }

/-- Read some bytes and classify their words. -/
def read (invocation : Invocation) (source : LogRecord) (bytes : List UInt8) : Outcome :=
  match Text.Utf8.decode bytes with
  | .ok text => invocation.classified [source] ((Text.words text).map String.ofList)
  | .error fault => invocation.stopped [source] (.malformed fault)

/-- The path that the request has to look up: a notice is shown without looking. -/
def lookedUp? (invocation : Invocation) : Option String :=
  if invocation.notice?.isSome then none else invocation.file?

/-- The request reads standard input: it does so only where nothing else is asked for. -/
def readsStandardInput (invocation : Invocation) : Bool :=
  invocation.notice?.isNone && invocation.file?.isNone && invocation.lexemes.isEmpty

/-- Arguments and a file cannot both give the lexemes. -/
def conflict : Fault := .badArgument "cannot combine LEXEMES with --file"

/-- The outcome of a request. -/
def outcome (invocation : Invocation) (entry : String → Entry) (stdin : List UInt8) : Outcome :=
  match invocation.notice?, invocation.file? with
  | some notice, _ => notice.outcome
  | none, none =>
    if invocation.lexemes = [] then invocation.read .readingStandardInput stdin
    else invocation.classified [] invocation.lexemes
  | none, some path =>
    match entry path with
    | .missing => (Refusal.noFile path).outcome
    | .directory => (Refusal.isDirectory path).outcome
    | .file content =>
      if invocation.lexemes = [] then invocation.read (.readingFile (Path.normal path)) content
      else invocation.stopped [] conflict

end Invocation

/-- The outcome of a command line whose path, if it has one, can be looked up. -/
def outcome (arguments : List String) (entry : String → Entry) (stdin : List UInt8) : Outcome :=
  match Invocation.ofArguments arguments with
  | .error error => (Refusal.arguments error).outcome
  | .ok invocation => invocation.outcome entry stdin

/-- The path that a command line has to look up, if it has to look one up. -/
def lookedUp? (arguments : List String) : Option String :=
  (Invocation.ofArguments arguments).toOption.bind Invocation.lookedUp?

/-- A command line reads standard input. -/
def readsStandardInput (arguments : List String) : Bool :=
  ((Invocation.ofArguments arguments).toOption.map Invocation.readsStandardInput).getD false

/-- Why a command line has no outcome. -/
inductive PathError where
  /-- The path holds the character U+0000, with which no system call takes it. -/
  | embeddedNull
deriving DecidableEq, Repr

/-- The wording of an error. -/
def PathError.message : PathError → String
  | .embeddedNull => "embedded null byte"

/-- The path to look up holds the character U+0000. -/
def holdsNull (arguments : List String) : Bool :=
  (lookedUp? arguments).any fun path => path.toList.contains '\x00'

/-- Run the command: there is an outcome unless the path to look up cannot be looked up. -/
def run (arguments : List String) (entry : String → Entry) (stdin : List UInt8) :
    Except PathError Outcome :=
  if holdsNull arguments then .error .embeddedNull else .ok (outcome arguments entry stdin)

end Lexis.Command
