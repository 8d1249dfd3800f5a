import Lexis.Proofs.Endings
import Lexis.Proofs.Sources

/-!
# One more switch

A switch that is put in front of a command line is on in its request, and nothing else about the
request changes (`ofArguments_cons_switch`): what cannot be read still cannot, and the path, the
lexemes, the notice and the source are those of the command line without it.
-/

namespace Lexis.Command

namespace Invocation

/-- The request with a switch on. -/
def switchOn (switch : Switch) (invocation : Invocation) : Invocation :=
  match switch with
  | .strictEmpty =>
    { invocation with options := { invocation.options with emptyIsIllegal := true } }
  | .appendEof => { invocation with options := { invocation.options with appendEof := true } }
  | .typesOnly => { invocation with typesOnly := true }
  | .verbose => { invocation with verbose := true }

variable {entry : String → Entry} {stdin : List UInt8}

@[simp]
theorem switchOn_file? (switch : Switch) (invocation : Invocation) :
    (invocation.switchOn switch).file? = invocation.file? := by
  cases switch <;> rfl

@[simp]
theorem switchOn_notice? (switch : Switch) (invocation : Invocation) :
    (invocation.switchOn switch).notice? = invocation.notice? := by
  cases switch <;> rfl

@[simp]
theorem switchOn_lexemes (switch : Switch) (invocation : Invocation) :
    (invocation.switchOn switch).lexemes = invocation.lexemes := by
  cases switch <;> rfl

/-- A request reads the same source with a switch on. -/
theorem Source.switchOn {invocation : Invocation} {record : LogRecord} {bytes : List UInt8}
    (source : invocation.Source entry stdin record bytes) (switch : Switch) :
    (invocation.switchOn switch).Source entry stdin record bytes :=
  source.congr (switchOn_file? switch invocation) (switchOn_lexemes switch invocation)

/-- A switch among the items is on. -/
theorem ofItems_cons_switch (switch : Switch) (items : List Item) :
    ofItems (.switch switch :: items) = (ofItems items).switchOn switch := by
  cases switch <;>
    simp [ofItems, switchOn, List.filterMap_cons, Item.file?, Item.notice?, Item.lexeme?]

/-- A switch in front of a command line is on in its request. -/
theorem ofArguments_cons_switch {argument : String} {switch : Switch}
    (spells : Spells argument (.complete [.switch switch])) (rest : List String) :
    ofArguments (argument :: rest) = (ofArguments rest).map (switchOn switch) := by
  rw [ofArguments, readArguments_cons spells, ofArguments]
  cases readArguments rest with
  | error error => rfl
  | ok items => exact congrArg Except.ok (ofItems_cons_switch switch items)

end Invocation

end Lexis.Command
