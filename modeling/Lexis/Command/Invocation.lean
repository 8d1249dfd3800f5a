import Lexis.Classification
import Lexis.Command.Arguments

/-!
# Invocations

What a command line asks for, once it is read. Order and repetition of its items count only where
this says so: a switch is on when it occurs at all, of several paths the last one counts, of
several notices the first one does, and the lexemes keep their order.
-/

namespace Lexis.Command

/-- The lexeme of an item. -/
def Item.lexeme? : Item → Option String
  | .lexeme text => some text
  | _ => none

/-- The path of an item. -/
def Item.file? : Item → Option String
  | .file path => some path
  | _ => none

/-- The notice of an item. -/
def Item.notice? : Item → Option Notice
  | .notice asked => some asked
  | _ => none

namespace Item

theorem lexeme?_eq_some_iff {item : Item} {text : String} :
    item.lexeme? = some text ↔ item = .lexeme text := by
  cases item <;> simp [lexeme?]

theorem file?_eq_some_iff {item : Item} {path : String} :
    item.file? = some path ↔ item = .file path := by
  cases item <;> simp [file?]

theorem notice?_eq_some_iff {item : Item} {asked : Notice} :
    item.notice? = some asked ↔ item = .notice asked := by
  cases item <;> simp [notice?]

end Item

/-- A request of the command. -/
structure Invocation where
  /-- How lexemes are classified. -/
  options : Options
  /-- Only the type names are printed. -/
  typesOnly : Bool
  /-- The log is shown. -/
  verbose : Bool
  /-- The path of the file that lexemes are read from. -/
  file? : Option String
  /-- The notice that is shown in place of a run. -/
  notice? : Option Notice
  /-- The lexemes given as arguments. -/
  lexemes : List String
deriving DecidableEq, Repr

/-- The request that some items make. -/
def Invocation.ofItems (items : List Item) : Invocation where
  options :=
    { emptyIsIllegal := items.contains (.switch .strictEmpty)
      appendEof := items.contains (.switch .appendEof) }
  typesOnly := items.contains (.switch .typesOnly)
  verbose := items.contains (.switch .verbose)
  file? := (items.filterMap Item.file?).getLast?
  notice? := (items.filterMap Item.notice?).head?
  lexemes := items.filterMap Item.lexeme?

/-- The request of a command line. -/
def Invocation.ofArguments (arguments : List String) : Except ArgumentError Invocation :=
  (readArguments arguments).map Invocation.ofItems

namespace Invocation

/-- A command line has a request when it can be read, and that is the request of its items. -/
theorem ofArguments_eq_ok_iff {arguments : List String} {invocation : Invocation} :
    ofArguments arguments = .ok invocation ↔
      ∃ items, readArguments arguments = .ok items ∧ ofItems items = invocation := by
  rw [ofArguments]
  cases readArguments arguments <;> simp [Except.map]

variable {items : List Item}

/-- A request has no lexemes when there are none among its items. -/
theorem ofItems_lexemes_eq_nil_iff :
    (ofItems items).lexemes = [] ↔ ∀ text, .lexeme text ∉ items := by
  rw [ofItems, List.eq_nil_iff_forall_not_mem]
  simp only [List.mem_filterMap, Item.lexeme?_eq_some_iff, exists_eq_right]

/-- A request has no path when there is none among its items. -/
theorem ofItems_file?_eq_none_iff :
    (ofItems items).file? = none ↔ ∀ path, .file path ∉ items := by
  rw [ofItems, List.getLast?_eq_none_iff, List.eq_nil_iff_forall_not_mem]
  simp only [List.mem_filterMap, Item.file?_eq_some_iff, exists_eq_right]

/-- A request asks for no notice when there is none among its items. -/
theorem ofItems_notice?_eq_none_iff :
    (ofItems items).notice? = none ↔ ∀ asked, .notice asked ∉ items := by
  rw [ofItems, List.head?_eq_none_iff, List.eq_nil_iff_forall_not_mem]
  simp only [List.mem_filterMap, Item.notice?_eq_some_iff, exists_eq_right]

end Invocation

end Lexis.Command
