import Lexis.Command.Run

/-!
# Written command lines

How the items of a command line may be written: each argument spells some items (`Spells`), an
option that is due a path takes the next argument whatever it looks like, and a double hyphen makes
lexemes of all that follows (`Written`). Every command line that is written for some items is read
as these items (`readArguments_of_written`), so two ways to write the same items are the same run.
-/

namespace Lexis.Command

namespace Switch

def all : List Switch := [.strictEmpty, .appendEof, .typesOnly, .verbose]

/-- The long option of a switch. -/
def name : Switch → String
  | .strictEmpty => "--strict-empty"
  | .appendEof => "--eof"
  | .typesOnly => "--types-only"
  | .verbose => "--verbose"

theorem mem_all (switch : Switch) : switch ∈ all := by
  cases switch <;> decide

end Switch

/-- The option of a notice. -/
def Notice.name : Notice → String
  | .version => "--version"
  | .help => "--help"

/-- A short option without a value. -/
inductive Letter where
  | typesOnly
  | verbose
deriving DecidableEq, Repr

namespace Letter

def character : Letter → Char
  | .typesOnly => 't'
  | .verbose => 'v'

def item : Letter → Item
  | .typesOnly => .switch .typesOnly
  | .verbose => .switch .verbose

end Letter

/-- A hyphen with some letters and what follows them. -/
def cluster (letters : List Letter) (rest : List Char) : String :=
  String.ofList ('-' :: (letters.map Letter.character ++ rest))

/-- An argument spells some items, or items and an option that takes the next argument. -/
inductive Spells : String → Reading → Prop where
  /-- A text that does not start with a hyphen, or a hyphen alone. -/
  | lexeme {text : String} (plain : text = "-" ∨ text.toList.head? ≠ some '-') :
    Spells text (.complete [.lexeme text])
  | switch (switch : Switch) : Spells switch.name (.complete [.switch switch])
  | notice (notice : Notice) : Spells notice.name (.complete [.notice notice])
  | pathAfterEquals (path : String) : Spells ("--file=" ++ path) (.complete [.file path])
  | pathDue : Spells "--file" (.awaiting [] "--file")
  | letters (letters : List Letter) (some : letters ≠ []) :
    Spells (cluster letters []) (.complete (letters.map Letter.item))
  | lettersPath (letters : List Letter) (path : String) (filled : path ≠ "") :
    Spells (cluster letters ('f' :: path.toList))
      (.complete (letters.map Letter.item ++ [.file path]))
  | lettersPathDue (letters : List Letter) :
    Spells (cluster letters ['f']) (.awaiting (letters.map Letter.item) "-f")

/-- A command line is written for some items. -/
inductive Written : List String → List Item → Prop where
  | nothing : Written [] []
  /-- After a double hyphen there are lexemes only. -/
  | onlyLexemes (texts : List String) : Written ("--" :: texts) (texts.map Item.lexeme)
  | complete {argument : String} {said items : List Item} {rest : List String}
      (spells : Spells argument (.complete said)) (written : Written rest items) :
    Written (argument :: rest) (said ++ items)
  /-- The next argument is a path, whatever it looks like. -/
  | withPath {argument name : String} {said items : List Item} {rest : List String}
      (spells : Spells argument (.awaiting said name)) (path : String)
      (written : Written rest items) :
    Written (argument :: path :: rest) (said ++ .file path :: items)

/-- The arguments that are no options. -/
theorem isOption_eq_false_iff {argument : String} :
    isOption argument = false ↔ argument = "-" ∨ argument.toList.head? ≠ some '-' := by
  rw [← String.toList_inj]
  unfold isOption
  split
  · rename_i starts
    simp [starts]
  · rename_i other
    refine iff_of_true rfl ?_
    rcases cut : argument.toList with _ | ⟨first, _ | ⟨second, rest⟩⟩
    · simp
    · by_cases hyphen : first = '-'
      · exact .inl (by rw [hyphen]; rfl)
      · exact .inr (by simpa using hyphen)
    · refine .inr fun head => other second rest ?_
      rw [cut, Option.some.inj head]

/-- Every long option starts with two hyphens. -/
theorem longMeaning?_eq_none {name : String} (short : name.toList.take 2 ≠ ['-', '-']) :
    longMeaning? name = none := by
  have hyphens : ∀ option ∈ longOptions, option.1.toList.take 2 = ['-', '-'] := by decide
  rw [longMeaning?, Option.map_eq_none_iff, List.find?_eq_none]
  intro option listed same
  rw [beq_iff_eq] at same
  exact short (same ▸ hyphens option listed)

/-- An argument of a single hyphen and more is read as a cluster. -/
theorem readArgument_cluster {letter : Char} (single : letter ≠ '-') (rest : List Char) :
    readArgument (String.ofList ('-' :: letter :: rest)) = readCluster (letter :: rest) := by
  have option : isOption (String.ofList ('-' :: letter :: rest)) = true := by simp [isOption]
  -- The part in front of an equals sign has only one hyphen at its start, if it is as long.
  have short : longMeaning? (optionName (String.ofList ('-' :: letter :: rest))) = none := by
    refine longMeaning?_eq_none ?_
    by_cases equals : letter = '='
    · simp [optionName, equals]
    · simp [optionName, equals, single]
  rw [readArgument, if_pos option, readOption, short]
  simp only [String.toList_ofList, List.drop_succ_cons, List.drop_zero]
  split
  · rename_i double
    obtain ⟨_, second⟩ := List.cons.inj double
    exact absurd (List.cons.inj second).1 single
  · rfl

/-- What a cluster says whose first letters say some items. -/
def Reading.behind (items : List Item) : Reading → Reading
  | .complete said => .complete (items ++ said)
  | .awaiting said name => .awaiting (items ++ said) name

/-- The letters of a cluster are read one by one. -/
theorem readCluster_letters (letters : List Letter) {rest : List Char} {reading : Reading}
    (read : readCluster rest = .ok reading) :
    readCluster (letters.map Letter.character ++ rest) =
      .ok (reading.behind (letters.map Letter.item)) := by
  induction letters with
  | nil =>
    refine read.trans ?_
    cases reading <;> rfl
  | cons letter letters ih =>
    have first : readCluster ((letter :: letters).map Letter.character ++ rest) =
        (readCluster (letters.map Letter.character ++ rest)).map
          (Reading.prepend letter.item) := by
      cases letter <;> rfl
    rw [first, ih]
    cases reading <;> rfl

/-- A cluster of letters and a rest says what the letters say and then what the rest says. -/
theorem readArgument_letters (letters : List Letter) {rest : List Char} {reading : Reading}
    (read : readCluster rest = .ok reading)
    (goesOn : letters = [] → ∃ letter more, rest = letter :: more ∧ letter ≠ '-') :
    readArgument (cluster letters rest) = .ok (reading.behind (letters.map Letter.item)) := by
  have starts : ∃ letter more,
      letters.map Letter.character ++ rest = letter :: more ∧ letter ≠ '-' := by
    cases letters with
    | nil => exact goesOn rfl
    | cons letter letters =>
      refine ⟨letter.character, letters.map Letter.character ++ rest, rfl, ?_⟩
      cases letter <;> decide
  obtain ⟨letter, more, cut, single⟩ := starts
  rw [cluster, cut, readArgument_cluster single, ← cut, readCluster_letters letters read]

/-- An argument that spells something is read so. -/
theorem readArgument_of_spells {argument : String} {reading : Reading}
    (spells : Spells argument reading) : readArgument argument = .ok reading := by
  cases spells with
  | lexeme plain => rw [readArgument, isOption_eq_false_iff.2 plain, if_neg (by simp)]
  | switch switch => cases switch <;> rfl
  | notice notice => cases notice <;> rfl
  | pathAfterEquals path =>
    have text : ("--file=" ++ path).toList = "--file=".toList ++ path.toList := by simp
    have option : isOption ("--file=" ++ path) = true := by simp [isOption]
    have name : optionName ("--file=" ++ path) = "--file" := by
      simp [optionName, text]
    have value : optionValue? ("--file=" ++ path) = some path := by
      simp [optionValue?, text]
    rw [readArgument, if_pos option, readOption, name, value]
    rfl
  | pathDue => rfl
  | letters letters some =>
    have nothing : readCluster [] = .ok (.complete []) := rfl
    have read := readArgument_letters letters nothing fun none => absurd none some
    simpa [Reading.behind] using read
  | lettersPath letters path filled =>
    have attached : readCluster ('f' :: path.toList) = .ok (.complete [.file path]) := by
      simp [readCluster, shortMeaning?, filled]
    exact readArgument_letters letters attached fun _ => ⟨'f', _, rfl, by decide⟩
  | lettersPathDue letters =>
    have due : readCluster ['f'] = .ok (.awaiting [] "-f") := rfl
    have read := readArgument_letters letters due fun _ => ⟨'f', _, rfl, by decide⟩
    simpa [Reading.behind] using read

/-- No option is a double hyphen. -/
theorem Spells.ne_doubleHyphen {argument : String} {reading : Reading}
    (spells : Spells argument reading) : argument ≠ "--" := by
  rintro rfl
  have read := readArgument_of_spells spells
  contradiction

/-- An argument that spells some items is read as these items, in front of what follows it. -/
theorem readArguments_cons {argument : String} {said : List Item}
    (spells : Spells argument (.complete said)) (rest : List String) :
    readArguments (argument :: rest) = (readArguments rest).map (said ++ ·) := by
  rw [readArguments.eq_def]
  simp [spells.ne_doubleHyphen, readArgument_of_spells spells]

/-- A command line that is written for some items is read as these items. -/
theorem readArguments_of_written {arguments : List String} {items : List Item}
    (written : Written arguments items) : readArguments arguments = .ok items := by
  induction written with
  | nothing => rfl
  | onlyLexemes texts => exact readArguments_doubleHyphen texts
  | complete spells written ih =>
    rw [readArguments_cons spells, ih]
    rfl
  | withPath spells path written ih =>
    rw [readArguments.eq_def]
    simp [spells.ne_doubleHyphen, readArgument_of_spells spells, ih, Except.map]

/-- Switches may stand in front of any command line, in whatever spelling. -/
theorem Written.switches {spelling : Switch → String}
    (spells : ∀ switch, Spells (spelling switch) (.complete [.switch switch]))
    {rest : List String} {items : List Item} (written : Written rest items)
    (switches : List Switch) :
    Written (switches.map spelling ++ rest) (switches.map Item.switch ++ items) := by
  induction switches with
  | nil => exact written
  | cons switch switches ih =>
    have line := Written.complete (spells switch) ih
    exact line

end Lexis.Command
