import Lexis.Proofs.Verbosity

/-!
# The handling of faults

A fault may be of several sorts, one within another (`Fault.sorts`), and it goes to the first
handler that names one of them (`handledBy`). No fault is named by two handlers, so their order has
no part in where it goes (`exit_eq_handledBy`). The exit that a fault gets is seen from the start of
its message (`opening_prefix_iff`), because the start of no exit is that of another and none holds
an escape character, so that no removal of control sequences reaches it.
-/

namespace Lexis

/-- The sorts of faults. -/
inductive FaultSort where
  /-- The vocabulary refuses something. -/
  | refusal
  /-- The vocabulary refuses to make a token. -/
  | construction
  | badUsage
  | badArgument
  | system
  | notFound
  | notPermitted
  | isDirectory
  | badValue
  | malformed
  | badType
  | failure
  | missingKey
deriving DecidableEq, Repr

namespace Fault

/-- The sorts that a fault is of, the narrowest first. A refusal that names a kind is about a token
that was to be made of bad values, bytes that are no text are bad values, and an argument that
cannot be used is bad usage. -/
def sorts : Fault → List FaultSort
  | .refused report =>
    if report.kindName.isSome then [.construction, .refusal, .badValue] else [.refusal]
  | .badArgument _ => [.badArgument, .badUsage]
  | .badUsage _ => [.badUsage]
  | .malformed _ => [.malformed, .badValue]
  | .system .notFound _ => [.notFound, .system]
  | .system .notPermitted _ => [.notPermitted, .system]
  | .system .isDirectory _ => [.isDirectory, .system]
  | .system .other _ => [.system]
  | .program .badValue _ => [.badValue]
  | .program .badType _ => [.badType]
  | .program .failure _ => [.failure]
  | .program .missingKey _ => [.missingKey]

/-- The handlers in their order: each names some sorts and gives the faults of these an exit. -/
def handlers : List (List FaultSort × Exit) :=
  [([.refusal], .classifyError),
    ([.badArgument, .notFound, .notPermitted], .invalidArguments),
    ([.malformed], .invalidArguments)]

/-- A handler names a sort of the fault. -/
def isNamedBy (fault : Fault) (handler : List FaultSort × Exit) : Bool :=
  handler.1.any fault.sorts.contains

/-- The exit that some handlers give a fault: that of the first one that names a sort of it. A fault
that none of them names is internal. -/
def handledBy (tried : List (List FaultSort × Exit)) (fault : Fault) : Exit :=
  ((tried.find? fault.isNamedBy).map Prod.snd).getD .internalError

/-- The handlers that name a fault: at most one. -/
theorem filter_handlers (fault : Fault) :
    (handlers.filter fault.isNamedBy).map Prod.snd =
      if fault.exit = .internalError then [] else [fault.exit] := by
  cases fault with
  | refused report =>
    by_cases about : report.kindName.isSome = true <;>
      simp [handlers, isNamedBy, sorts, about, exit]
  | badArgument | badUsage | malformed => rfl
  | system fault details => cases fault <;> rfl
  | program fault details => cases fault <;> rfl

/-- In whatever order the handlers are tried, a fault ends as it does. -/
theorem exit_eq_handledBy {tried : List (List FaultSort × Exit)} (reordered : tried.Perm handlers)
    (fault : Fault) : fault.exit = handledBy tried fault := by
  have named := ((reordered.filter fault.isNamedBy).map Prod.snd)
  rw [filter_handlers] at named
  have first : (tried.find? fault.isNamedBy).map Prod.snd =
      ((tried.filter fault.isNamedBy).map Prod.snd).head? := by
    rw [List.head?_map, List.head?_filter]
  rw [handledBy, first]
  split at named
  · rename_i internal
    rw [List.perm_nil.1 named, internal]
    rfl
  · rw [List.perm_singleton.1 named]
    rfl

end Fault

theorem Exit.mem_all (exit : Exit) : exit ∈ all := by
  cases exit <;> decide

/-- A code determines its exit. -/
theorem Exit.code_eq_code_iff {left right : Exit} : left.code = right.code ↔ left = right := by
  have distinct : ∀ first ∈ all, ∀ second ∈ all, first.code = second.code → first = second := by
    decide
  exact ⟨distinct left left.mem_all right right.mem_all, congrArg code⟩

namespace Fault

/-- No handled fault ends as a success. -/
theorem exit_ne_success (fault : Fault) : fault.exit ≠ .success := by
  cases fault with
  | refused | badArgument | badUsage | malformed | program => exact Exit.noConfusion
  | system fault details => cases fault <;> exact Exit.noConfusion

/-- A fault has the exit of a handler exactly if one that gives this exit names it. -/
theorem exit_eq_iff_isNamedBy {fault : Fault} {exit : Exit} (handled : exit ≠ .internalError) :
    fault.exit = exit ↔
      ∃ handler ∈ handlers, fault.isNamedBy handler ∧ handler.2 = exit := by
  have given : fault.exit = exit ↔ exit ∈ (handlers.filter fault.isNamedBy).map Prod.snd := by
    rw [filter_handlers]
    split
    · rename_i internal
      rw [internal]
      exact iff_of_false handled.symm List.not_mem_nil
    · rw [List.mem_singleton, eq_comm]
  simp only [given, List.mem_map, List.mem_filter, and_assoc]

/-- The sorts of fault that the refusals are. -/
theorem exit_eq_classifyError_iff {fault : Fault} :
    fault.exit = .classifyError ↔ .refusal ∈ fault.sorts := by
  rw [exit_eq_iff_isNamedBy Exit.noConfusion]
  simp [handlers, isNamedBy]

/-- The sorts of fault that an argument or an input is to blame for. -/
theorem exit_eq_invalidArguments_iff {fault : Fault} :
    fault.exit = .invalidArguments ↔ .badArgument ∈ fault.sorts ∨ .notFound ∈ fault.sorts ∨
      .notPermitted ∈ fault.sorts ∨ .malformed ∈ fault.sorts := by
  rw [exit_eq_iff_isNamedBy Exit.noConfusion]
  simp [handlers, isNamedBy, or_assoc]

/-- All other faults are internal. -/
theorem exit_eq_internalError_iff {fault : Fault} :
    fault.exit = .internalError ↔ .refusal ∉ fault.sorts ∧ .badArgument ∉ fault.sorts ∧
      .notFound ∉ fault.sorts ∧ .notPermitted ∉ fault.sorts ∧ .malformed ∉ fault.sorts := by
  have others (exit : Exit) (fails : exit ≠ .success) :
      exit = .internalError ↔ exit ≠ .classifyError ∧ exit ≠ .invalidArguments := by
    cases exit with
    | success => exact absurd rfl fails
    | classifyError | invalidArguments | internalError => decide
  rw [others fault.exit fault.exit_ne_success, ne_eq, exit_eq_classifyError_iff, ne_eq,
    exit_eq_invalidArguments_iff]
  simp only [not_or]

/-- What ends as a refusal has a report. -/
theorem exists_report {fault : Fault} (refused : fault.exit = .classifyError) :
    ∃ report, fault = .refused report := by
  cases fault with
  | refused report => exact ⟨report, rfl⟩
  | badArgument | badUsage | malformed | program => cases refused
  | system fault details => cases fault <;> cases refused

/-- How the message of an exit starts, where the text of a refusal is part of it. -/
def opening : Exit → String
  | .success => ""
  | .classifyError => "error: "
  | .invalidArguments => "Error: "
  | .internalError => "Internal error: "

/-- A message before it is printed. -/
def line (fault : Fault) : String := lead fault.exit ++ fault.text

/-- Only the text of a refusal brings its own start. -/
theorem opening_eq_lead {exit : Exit} (other : exit ≠ .classifyError) :
    opening exit = lead exit := by
  cases exit with
  | classifyError => exact absurd rfl other
  | success | invalidArguments | internalError => rfl

/-- A message starts as those of its exit do. -/
theorem exists_line_eq (fault : Fault) : ∃ body, fault.line = opening fault.exit ++ body := by
  by_cases refused : fault.exit = .classifyError
  · obtain ⟨report, rfl⟩ := exists_report refused
    refine ⟨report.message ++ report.hintText, ?_⟩
    show "" ++ ("error: " ++ report.message ++ report.hintText) =
      "error: " ++ (report.message ++ report.hintText)
    rw [String.empty_append, String.append_assoc]
  · exact ⟨fault.text, by rw [opening_eq_lead refused, line]⟩

/-- The start of a message tells its exit, whatever comes behind it. -/
theorem opening_prefix_iff {exit announced : Exit} (fails : exit ≠ .success)
    (failing : announced ≠ .success) (rest : List Char) :
    (opening announced).toList <+: (opening exit).toList ++ rest ↔ announced = exit := by
  have apart : ∀ first ∈ Exit.all, ∀ second ∈ Exit.all, first ≠ .success → second ≠ .success →
      (opening first).toList <+: (opening second).toList → first = second := by decide
  constructor
  · intro starts
    have own : (opening exit).toList <+: (opening exit).toList ++ rest := List.prefix_append _ _
    obtain within | within := List.prefix_or_prefix_of_prefix starts own
    · exact apart announced announced.mem_all exit exit.mem_all failing fails within
    · exact (apart exit exit.mem_all announced announced.mem_all fails failing within).symm
  · rintro rfl
    exact List.prefix_append _ _

theorem escape_not_mem_opening (exit : Exit) :
    Text.ControlSequence.escape ∉ (opening exit).toList := by
  cases exit <;> decide

/-- The start of a text tells which exit it is about. -/
structure Tells (text : String) (exit : Exit) : Prop where
  classifyError : "error: ".toList <+: text.toList ↔ exit.code = 1
  invalidArguments : "Error: ".toList <+: text.toList ↔ exit.code = 2
  internalError : "Internal error: ".toList <+: text.toList ↔ exit.code = 3

/-- A text that starts as the messages of an exit do tells that exit. -/
theorem tells_of_opening {exit : Exit} (fails : exit ≠ .success) {text : String}
    (starts : (opening exit).toList <+: text.toList) : Tells text exit := by
  obtain ⟨rest, cut⟩ := starts
  have announces (announced : Exit) (failing : announced ≠ .success) :
      (opening announced).toList <+: text.toList ↔ exit.code = announced.code := by
    rw [← cut, opening_prefix_iff fails failing, Exit.code_eq_code_iff, eq_comm]
  exact ⟨announces .classifyError Exit.noConfusion, announces .invalidArguments Exit.noConfusion,
    announces .internalError Exit.noConfusion⟩

/-- A message starts as those of its exit do when it is printed, too. -/
theorem opening_prefix_strip_line (fault : Fault) :
    (opening fault.exit).toList <+: (Text.ControlSequence.strip fault.line).toList := by
  obtain ⟨body, starts⟩ := fault.exists_line_eq
  rw [Text.ControlSequence.strip, String.toList_ofList, starts, String.toList_append,
    Text.ControlSequence.stripAfter_append (escape_not_mem_opening fault.exit)]
  exact List.prefix_append _ _

/-- A message tells its exit, with its control sequences and without them. -/
theorem tells_line (fault : Fault) : Tells fault.line fault.exit ∧
    Tells (Text.ControlSequence.strip fault.line) fault.exit := by
  obtain ⟨body, starts⟩ := fault.exists_line_eq
  refine ⟨tells_of_opening fault.exit_ne_success ?_,
    tells_of_opening fault.exit_ne_success fault.opening_prefix_strip_line⟩
  rw [starts, String.toList_append]
  exact List.prefix_append _ _

/-- What is written on standard error starts with the printed message. -/
theorem stderr_outcome_eq (fault : Fault) (verbose : Bool) :
    (fault.outcome verbose).stderr =
      fault.told ++ if verbose then trace fault.exit else "" := rfl

theorem tells_stderr (fault : Fault) (verbose : Bool) :
    Tells (fault.outcome verbose).stderr fault.exit := by
  refine tells_of_opening fault.exit_ne_success (fault.opening_prefix_strip_line.trans ?_)
  rw [stderr_outcome_eq, told, printed, String.append_assoc, String.toList_append]
  exact List.prefix_append _ _

/-- Only an internal fault has more to say. -/
theorem trace_eq_empty_iff {exit : Exit} : trace exit = "" ↔ exit ≠ .internalError := by
  cases exit with
  | internalError => exact iff_of_false (by decide) (by simp)
  | success | classifyError | invalidArguments => exact iff_of_true rfl Exit.noConfusion

/-- A verbose run adds its trace behind what it says otherwise, and changes nothing else. -/
theorem outcome_true (fault : Fault) :
    fault.outcome true = { fault.outcome false with
      stderr := (fault.outcome false).stderr ++ trace fault.exit } := by
  rw [stderr_outcome_eq, if_neg Bool.false_ne_true, String.append_empty]
  rfl

/-- A verbose run says more exactly about an internal fault. -/
theorem outcome_true_ne_iff (fault : Fault) :
    fault.outcome true ≠ fault.outcome false ↔ fault.exit = .internalError := by
  have alike : fault.outcome true = fault.outcome false ↔ trace fault.exit = "" := by
    constructor
    · intro same
      have texts := congrArg Outcome.stderr same
      rw [outcome_true] at texts
      exact (String.append_right_inj _).1 (texts.trans String.append_empty.symm)
    · intro nothing
      rw [outcome_true, nothing, String.append_empty]
  rw [ne_eq, alike, trace_eq_empty_iff, not_not]

/-- The handling of a fault keeps its exit, its stream and its message in step. Nothing goes to
standard output. The exit follows from the sorts that the fault is of, in whatever order the
handlers are tried. The message tells the exit by its start, with its control sequences and without
them, and a verbose run adds something to an internal fault only, behind the message. -/
theorem exit_and_message_in_step (fault : Fault) (verbose : Bool) :
    (fault.outcome verbose).stdout = "" ∧
      ((fault.outcome verbose).exit.code = 1 ↔ .refusal ∈ fault.sorts) ∧
      ((fault.outcome verbose).exit.code = 2 ↔ .badArgument ∈ fault.sorts ∨
        .notFound ∈ fault.sorts ∨ .notPermitted ∈ fault.sorts ∨ .malformed ∈ fault.sorts) ∧
      ((fault.outcome verbose).exit.code = 3 ↔ .refusal ∉ fault.sorts ∧
        .badArgument ∉ fault.sorts ∧ .notFound ∉ fault.sorts ∧ .notPermitted ∉ fault.sorts ∧
        .malformed ∉ fault.sorts) ∧
      (∀ tried : List (List FaultSort × Exit), tried.Perm handlers →
        (fault.outcome verbose).exit = handledBy tried fault) ∧
      Tells fault.line (fault.outcome verbose).exit ∧
      Tells (Text.ControlSequence.strip fault.line) (fault.outcome verbose).exit ∧
      Tells (fault.outcome verbose).stderr (fault.outcome verbose).exit ∧
      (fault.outcome false).stderr = printed fault.line ∧
      (fault.outcome true ≠ fault.outcome false ↔ (fault.outcome verbose).exit.code = 3) ∧
      ∃ more, fault.outcome true =
        { fault.outcome false with stderr := (fault.outcome false).stderr ++ more } := by
  have coded (exit : Exit) : fault.exit.code = exit.code ↔ fault.exit = exit :=
    Exit.code_eq_code_iff
  have refuses : fault.exit.code = 1 ↔ .refusal ∈ fault.sorts :=
    (coded .classifyError).trans exit_eq_classifyError_iff
  have blames : fault.exit.code = 2 ↔ .badArgument ∈ fault.sorts ∨ .notFound ∈ fault.sorts ∨
      .notPermitted ∈ fault.sorts ∨ .malformed ∈ fault.sorts :=
    (coded .invalidArguments).trans exit_eq_invalidArguments_iff
  have internal : fault.exit.code = 3 ↔ fault.exit = .internalError := coded .internalError
  have told : (fault.outcome false).stderr = printed fault.line := by
    rw [stderr_outcome_eq, if_neg Bool.false_ne_true, String.append_empty]
    rfl
  have changes : fault.outcome true ≠ fault.outcome false ↔ fault.exit.code = 3 :=
    fault.outcome_true_ne_iff.trans internal.symm
  obtain ⟨plain, stripped⟩ := fault.tells_line
  rw [show (fault.outcome verbose).exit = fault.exit from rfl]
  exact ⟨rfl, refuses, blames, internal.trans exit_eq_internalError_iff,
    fun tried reordered => exit_eq_handledBy reordered fault, plain, stripped,
    fault.tells_stderr verbose, told, changes, _, fault.outcome_true⟩

/-- A token refused in red, which is a bad value as well, with the handlers tried backwards. -/
theorem exit_and_message_in_step_control_sequence :
    let fault := Fault.refused ⟨"\x1b[31mbad", some "", some "PLUS"⟩
    handlers.reverse.Perm handlers ∧ .badValue ∈ fault.sorts ∧
      handledBy handlers.reverse fault = .classifyError ∧
      (fault.outcome true).stderr = "error: bad\n" ∧
      "error: ".toList <+: (fault.outcome true).stderr.toList ∧
      ¬"Error: ".toList <+: (fault.outcome true).stderr.toList ∧
      fault.outcome true = fault.outcome false := by
  intro fault
  have reordered : handlers.reverse.Perm handlers := List.reverse_perm handlers
  obtain ⟨_, _, _, _, handled, _, _, tells, _, changed, _⟩ := exit_and_message_in_step fault true
  have code : (fault.outcome true).exit.code = 1 := rfl
  refine ⟨reordered, by decide, (handled _ reordered).symm, by decide,
    tells.classifyError.2 code, ?_, not_not.1 ?_⟩
  · rw [tells.invalidArguments, code]
    decide
  · rw [← ne_eq, changed, code]
    decide

end Fault

end Lexis
