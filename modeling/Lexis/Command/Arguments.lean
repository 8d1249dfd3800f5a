/-!
# Command-line arguments

A command line is read from left to right into items: lexemes, paths of files, and what is switched
on or asked for. An argument that starts with a hyphen and is longer than that is an option; all
others are lexemes, wherever they stand, and so is everything after a double hyphen. A long option
is known by the part in front of its first equals sign. An option that is no known long one and
starts with a single hyphen is a cluster of short ones, and the rest of a cluster after the option
for a path is that path. A path that is not attached is the next argument, whatever it looks like.
Reading stops at the first argument that is none of this.
-/

namespace Lexis.Command

/-- What an option switches on. -/
inductive Switch where
  /-- Empty lexemes are illegal. -/
  | strictEmpty
  /-- The tokens end with the end of input. -/
  | appendEof
  /-- Only the type names are printed. -/
  | typesOnly
  /-- The log is shown. -/
  | verbose
deriving DecidableEq, Repr

/-- What is shown in place of a run. -/
inductive Notice where
  | version
  | help
deriving DecidableEq, Repr

/-- What an option means. -/
inductive Meaning where
  /-- It takes the path of a file. -/
  | file
  | switch (switch : Switch)
  | notice (notice : Notice)
deriving DecidableEq, Repr

/-- One item of a command line. -/
inductive Item where
  /-- A text to be classified. -/
  | lexeme (text : String)
  /-- The path of a file to be read. -/
  | file (path : String)
  | switch (switch : Switch)
  | notice (notice : Notice)
deriving DecidableEq, Repr

/-- The long options, in the order in which they are documented. -/
def longOptions : List (String × Meaning) :=
  [("--file", .file), ("--strict-empty", .switch .strictEmpty), ("--eof", .switch .appendEof),
    ("--types-only", .switch .typesOnly), ("--verbose", .switch .verbose),
    ("--version", .notice .version), ("--help", .notice .help)]

/-- The meaning of a long option. -/
def longMeaning? (name : String) : Option Meaning :=
  (longOptions.find? fun option => option.1 == name).map Prod.snd

/-- The meaning of a short option. -/
def shortMeaning? : Char → Option Meaning
  | 'f' => some .file
  | 't' => some (.switch .typesOnly)
  | 'v' => some (.switch .verbose)
  | _ => none

/-- Why a command line cannot be read. -/
inductive ArgumentError where
  /-- No option has the name. -/
  | unknownOption (name : String)
  /-- The option takes no value and is given one. -/
  | unexpectedValue (name : String)
  /-- The option takes a value and is the last argument. -/
  | missingValue (name : String)
deriving DecidableEq, Repr

/-- What one argument says. -/
inductive Reading where
  /-- These items, and nothing is missing. -/
  | complete (items : List Item)
  /-- These items, and the option with this name takes the next argument as its path. -/
  | awaiting (items : List Item) (name : String)
deriving DecidableEq, Repr

/-- Put an item in front of what an argument says. -/
def Reading.prepend (item : Item) : Reading → Reading
  | .complete items => .complete (item :: items)
  | .awaiting items name => .awaiting (item :: items) name

/-- Read the characters of a cluster of short options. -/
def readCluster : List Char → Except ArgumentError Reading
  | [] => .ok (.complete [])
  | letter :: rest =>
    match shortMeaning? letter with
    | none => .error (.unknownOption (String.ofList ['-', letter]))
    | some .file =>
      if rest = [] then .ok (.awaiting [] (String.ofList ['-', letter]))
      else .ok (.complete [.file (String.ofList rest)])
    | some (.switch switch) => (readCluster rest).map (Reading.prepend (.switch switch))
    | some (.notice notice) => (readCluster rest).map (Reading.prepend (.notice notice))

/-- A long option with what stands after its equals sign. -/
def readLong (name : String) : Meaning → Option String → Except ArgumentError Reading
  | .file, some path => .ok (.complete [.file path])
  | .file, none => .ok (.awaiting [] name)
  | .switch switch, none => .ok (.complete [.switch switch])
  | .notice notice, none => .ok (.complete [.notice notice])
  | _, some _ => .error (.unexpectedValue name)

/-- The part of an argument in front of its first equals sign. -/
def optionName (argument : String) : String :=
  String.ofList (argument.toList.takeWhile (· != '='))

/-- The part of an argument after its first equals sign. -/
def optionValue? (argument : String) : Option String :=
  match argument.toList.dropWhile (· != '=') with
  | [] => none
  | _ :: value => some (String.ofList value)

/-- Read an option. -/
def readOption (argument : String) : Except ArgumentError Reading :=
  match longMeaning? (optionName argument) with
  | some meaning => readLong (optionName argument) meaning (optionValue? argument)
  | none =>
    match argument.toList with
    | '-' :: '-' :: _ => .error (.unknownOption (optionName argument))
    | _ => readCluster (argument.toList.drop 1)

/-- An argument is an option when it starts with a hyphen and goes on. -/
def isOption (argument : String) : Bool :=
  match argument.toList with
  | '-' :: _ :: _ => true
  | _ => false

/-- Read one argument. -/
def readArgument (argument : String) : Except ArgumentError Reading :=
  if isOption argument then readOption argument else .ok (.complete [.lexeme argument])

/-- Read a command line. -/
def readArguments : List String → Except ArgumentError (List Item)
  | [] => .ok []
  | argument :: rest =>
    if argument = "--" then .ok (rest.map Item.lexeme)
    else
      match readArgument argument with
      | .error error => .error error
      | .ok (.complete items) => (readArguments rest).map (items ++ ·)
      | .ok (.awaiting items name) =>
        match rest with
        | [] => .error (.missingValue name)
        | path :: rest => (readArguments rest).map (items ++ .file path :: ·)

/-- Everything after a double hyphen is a lexeme. -/
theorem readArguments_doubleHyphen (rest : List String) :
    readArguments ("--" :: rest) = .ok (rest.map Item.lexeme) := by
  simp [readArguments]

/-- An argument that is no option is a lexeme. -/
theorem readArguments_lexeme {argument : String} (plain : isOption argument = false)
    (rest : List String) :
    readArguments (argument :: rest) = (readArguments rest).map (Item.lexeme argument :: ·) := by
  have other : argument ≠ "--" := by
    rintro rfl
    exact absurd plain (by decide)
  rw [readArguments.eq_def]
  simp [other, readArgument, plain]

end Lexis.Command
