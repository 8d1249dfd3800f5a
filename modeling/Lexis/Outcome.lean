import Lexis.Text.ControlSequence

/-!
# Outcomes

What a run leaves behind: an exit and two texts. The four exits keep apart who is at fault, and a
line that is printed loses its control sequences first.
-/

namespace Lexis

/-- How a run ends. -/
inductive Exit where
  /-- The run did what was asked. -/
  | success
  /-- The vocabulary refused the request. -/
  | classifyError
  /-- The arguments are invalid, or the input cannot be read or is not text. -/
  | invalidArguments
  /-- Something unforeseen happened. -/
  | internalError
deriving DecidableEq, Repr

namespace Exit

/-- Every exit, in the order of the codes. -/
def all : List Exit := [.success, .classifyError, .invalidArguments, .internalError]

/-- The capital-letter name of an exit. -/
def name : Exit → String
  | .success => "SUCCESS"
  | .classifyError => "CLASSIFY_ERROR"
  | .invalidArguments => "INVALID_ARGS"
  | .internalError => "INTERNAL_ERROR"

/-- The code of an exit. -/
def code : Exit → Nat
  | .success => 0
  | .classifyError => 1
  | .invalidArguments => 2
  | .internalError => 3

end Exit

/-- What a run leaves behind. -/
structure Outcome where
  /-- How it ended. -/
  exit : Exit
  /-- What is on standard output. -/
  stdout : String
  /-- What is on standard error. -/
  stderr : String
deriving DecidableEq, Repr

/-- A line as it is printed: without control sequences, and with its end. -/
def printed (line : String) : String := Text.ControlSequence.strip line ++ "\n"

/-- Lines as they are printed, one after the other. -/
def printedLines (lines : List String) : String := String.join (lines.map printed)

end Lexis
