import Lexis.Proofs.CommandLine
import Mathlib.Data.List.Basic

/-!
# One way to write a request

Of the items of a command line neither the order nor the repetition of switches counts, and of
several paths only the last one does. What is left is written in one way (`normalArguments`): the
switches that are on, the path, and behind a double hyphen the lexemes in their order. A run cannot
tell a command line from its normal one.
-/

namespace Lexis.Command

/-- Some switches, then a path if there is one, then some lexemes. -/
def itemsOf (switches : List Switch) (path? : Option String) (lexemes : List String) : List Item :=
  switches.map .switch ++ (path?.toList.map .file ++ lexemes.map .lexeme)

/-- How lexemes are classified when some switches are on. -/
def optionsOf (switches : List Switch) : Options where
  emptyIsIllegal := switches.contains .strictEmpty
  appendEof := switches.contains .appendEof

/-- The request for what some switches, a path and some lexemes say. -/
def Invocation.ofParts (switches : List Switch) (path? : Option String) (lexemes : List String) :
    Invocation where
  options := optionsOf switches
  typesOnly := switches.contains .typesOnly
  verbose := switches.contains .verbose
  file? := path?
  notice? := none
  lexemes := lexemes

theorem ofItems_itemsOf (switches : List Switch) (path? : Option String) (lexemes : List String) :
    Invocation.ofItems (itemsOf switches path? lexemes) = .ofParts switches path? lexemes := by
  have on (switch : Switch) : (itemsOf switches path? lexemes).contains (.switch switch) =
      switches.contains switch := by
    rw [Bool.eq_iff_iff]
    simp [itemsOf]
  have paths : ((itemsOf switches path? lexemes).filterMap Item.file?).getLast? = path? := by
    cases path? <;>
      simp [itemsOf, List.filterMap_map, Function.comp_def, Item.file?, List.filterMap_none]
  have given : (itemsOf switches path? lexemes).filterMap Item.lexeme? = lexemes := by
    simp [itemsOf, List.filterMap_map, Function.comp_def, Item.lexeme?, List.filterMap_none]
  have notices : (itemsOf switches path? lexemes).filterMap Item.notice? = [] := by
    simp [itemsOf, List.filterMap_map, Function.comp_def, Item.notice?, List.filterMap_none]
  simp only [Invocation.ofItems, on, paths, given, notices]
  rfl

/-- The switches that are on, each once and in a fixed order. -/
def switchesOf (items : List Item) : List Switch :=
  Switch.all.filter fun switch => items.contains (.switch switch)

/-- The path that counts. -/
def lastPath? (items : List Item) : Option String := (items.filterMap Item.file?).getLast?

/-- The lexemes in their order. -/
def lexemesOf (items : List Item) : List String := items.filterMap Item.lexeme?

/-- Unless a notice is asked for, a request is known from its switches, its path and its lexemes. -/
theorem ofItems_eq_ofParts {items : List Item} (silent : ∀ notice, .notice notice ∉ items) :
    Invocation.ofItems items =
      .ofParts (switchesOf items) (lastPath? items) (lexemesOf items) := by
  have on (switch : Switch) : (switchesOf items).contains switch =
      items.contains (.switch switch) := by
    rw [Bool.eq_iff_iff]
    simp [switchesOf, switch.mem_all]
  have notices : (items.filterMap Item.notice?).head? = none :=
    Invocation.ofItems_notice?_eq_none_iff.2 silent
  simp only [Invocation.ofItems, Invocation.ofParts, optionsOf, on, notices]
  rfl

/-- The one way to write a request: the switches that are on, the path that counts, and behind a
double hyphen the lexemes. -/
def normalArguments (items : List Item) : List String :=
  (switchesOf items).map Switch.name ++
    ((lastPath? items).toList.flatMap (fun path => ["--file", path]) ++
      "--" :: lexemesOf items)

theorem written_normalArguments (items : List Item) :
    Written (normalArguments items)
      (itemsOf (switchesOf items) (lastPath? items) (lexemesOf items)) := by
  refine Written.switches Spells.switch ?_ (switchesOf items)
  cases lastPath? items with
  | none => exact .onlyLexemes _
  | some path => exact .withPath .pathDue path (.onlyLexemes _)

theorem lexemesOf_map_lexeme (texts : List String) :
    lexemesOf (texts.map Item.lexeme) = texts := by
  simp [lexemesOf, List.filterMap_map, Function.comp_def, Item.lexeme?]

/-- A run depends on its arguments only through the request that they make. -/
theorem run_congr {first second : List String}
    (same : Invocation.ofArguments first = Invocation.ofArguments second)
    (entry : String → Entry) (stdin : List UInt8) :
    run first entry stdin = run second entry stdin := by
  have paths : lookedUp? first = lookedUp? second := by rw [lookedUp?, same, lookedUp?]
  have outcomes : outcome first entry stdin = outcome second entry stdin := by
    rw [outcome, same, outcome]
  rw [run, run, holdsNull, holdsNull, paths, outcomes]

/-- The request of a command line that is written for some items. -/
theorem ofArguments_of_written {arguments : List String} {items : List Item}
    (written : Written arguments items) :
    Invocation.ofArguments arguments = .ok (Invocation.ofItems items) :=
  Invocation.ofArguments_eq_ok_iff.2 ⟨items, readArguments_of_written written, rfl⟩

/-- The lexemes of a request are those of its command line, in their order. -/
theorem lexemes_of_written {arguments : List String} {items : List Item}
    (written : Written arguments items) :
    (Invocation.ofArguments arguments).map Invocation.lexemes = .ok (lexemesOf items) := by
  rw [ofArguments_of_written written]
  rfl

/-- However a command line is written, its run is that of the normal one, and the request has its
lexemes in their order; any texts at all are lexemes behind a double hyphen. -/
theorem run_eq_run_normalArguments {arguments : List String} {items : List Item}
    (written : Written arguments items) (silent : ∀ notice, .notice notice ∉ items) :
    (∀ entry stdin, run arguments entry stdin = run (normalArguments items) entry stdin) ∧
      (Invocation.ofArguments arguments).map Invocation.lexemes = .ok (lexemesOf items) ∧
      ∀ texts, (Invocation.ofArguments ("--" :: texts)).map Invocation.lexemes = .ok texts := by
  have request : Invocation.ofArguments arguments =
      Invocation.ofArguments (normalArguments items) := by
    rw [ofArguments_of_written written, ofArguments_of_written (written_normalArguments items),
      ofItems_itemsOf, ofItems_eq_ofParts silent]
  refine ⟨run_congr request, lexemes_of_written written, fun texts => ?_⟩
  rw [lexemes_of_written (.onlyLexemes texts), lexemesOf_map_lexeme]

/-- Switches, paths and lexemes in every form: the detached path looks like an option, and so do
the lexemes behind the double hyphen. -/
theorem run_eq_run_normalArguments_every_form :
    let arguments :=
      ["-tf", "--eof", "x", "--types-only", "-vtf=1", "", "-", "--file=a=b", "--", "-t", "--"]
    let items : List Item :=
      [.switch .typesOnly, .file "--eof", .lexeme "x", .switch .typesOnly, .switch .verbose,
        .switch .typesOnly, .file "=1", .lexeme "", .lexeme "-", .file "a=b", .lexeme "-t",
        .lexeme "--"]
    Written arguments items ∧ (∀ notice, .notice notice ∉ items) ∧
      ∀ entry stdin, run arguments entry stdin =
        run ["--types-only", "--verbose", "--file", "a=b", "--", "x", "", "-", "-t", "--"]
          entry stdin := by
  intro arguments items
  have written : Written arguments items :=
    .withPath (.lettersPathDue [.typesOnly]) "--eof" <|
    .complete (.lexeme (.inr (by decide))) <|
    .complete (.switch .typesOnly) <|
    .complete (.lettersPath [.verbose, .typesOnly] "=1" (by decide)) <|
    .complete (.lexeme (.inr (by decide))) <|
    .complete (.lexeme (.inl rfl)) <|
    .complete (.pathAfterEquals "a=b") <|
    .onlyLexemes ["-t", "--"]
  have silent : ∀ notice, .notice notice ∉ items := by simp [items]
  exact ⟨written, silent, (run_eq_run_normalArguments written silent).1⟩

end Lexis.Command
