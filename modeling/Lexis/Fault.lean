import Lexis.Fault.Detail
import Lexis.Outcome
import Lexis.Report
import Lexis.Text.Utf8

/-!
# Faults

Everything that can stop a run is a fault. Where it comes from decides the exit and how the
message starts: a refusal of the vocabulary is shown as it is, an argument or an input that cannot
be used starts with a capital letter, and all else is internal. Only an internal fault says more
when the run is verbose, and then on a line after the message.
-/

namespace Lexis

/-- What the system refuses. -/
inductive SystemFault where
  | notFound
  | notPermitted
  | isDirectory
  | other
deriving DecidableEq, Repr

/-- What goes wrong inside the program. -/
inductive ProgramFault where
  /-- A value is not fit for its use. -/
  | badValue
  /-- A value is of the wrong sort. -/
  | badType
  /-- Something fails while it runs. -/
  | failure
  /-- A key is missing. -/
  | missingKey
deriving DecidableEq, Repr

/-- The wording of what goes wrong: a missing key is quoted, so that its ends are seen. -/
def ProgramFault.text : ProgramFault → List Detail → String
  | .missingKey, [key] => key.display
  | _, details => Detail.wording details

/-- Something that stops a run. -/
inductive Fault where
  /-- The vocabulary refuses a request. -/
  | refused (report : Report)
  /-- An argument cannot be used. -/
  | badArgument (message : String)
  /-- A command line cannot be used. -/
  | badUsage (message : String)
  /-- The input is not text. -/
  | malformed (fault : Text.Utf8.Malformed)
  /-- The system refuses a file. -/
  | system (fault : SystemFault) (details : List Detail)
  /-- The program is at fault. -/
  | program (fault : ProgramFault) (details : List Detail)
deriving DecidableEq, Repr

namespace Fault

/-- How a run ends that is stopped. -/
def exit : Fault → Exit
  | .refused _ => .classifyError
  | .badArgument _ | .malformed _ | .system .notFound _ | .system .notPermitted _ =>
    .invalidArguments
  | .badUsage _ | .system .isDirectory _ | .system .other _ | .program _ _ => .internalError

/-- The wording of a fault. -/
def text : Fault → String
  | .refused report => report.text
  | .badArgument message => message
  | .badUsage message => message
  | .malformed fault => "input is not valid UTF-8: " ++ fault.message
  | .system _ details => Detail.systemWording details
  | .program fault details => fault.text details

/-- How the message of an exit starts; the text of a refusal brings its own start. -/
def lead : Exit → String
  | .success | .classifyError => ""
  | .invalidArguments => "Error: "
  | .internalError => "Internal error: "

/-- What a verbose run adds: an internal fault is followed by the state it arose in, and none is
known here. -/
def trace : Exit → String
  | .internalError => "NoneType: None\n"
  | _ => ""

/-- What a stopped run leaves behind. -/
def outcome (verbose : Bool) (fault : Fault) : Outcome :=
  ⟨fault.exit, "",
    printed (lead fault.exit ++ fault.text) ++ if verbose then trace fault.exit else ""⟩

end Fault

end Lexis
