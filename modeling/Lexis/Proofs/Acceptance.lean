import Lexis.Proofs.CommandLine
import Lexis.Proofs.Endings

/-!
# Which command lines can be read

Reading an argument accepts exactly what some items can be spelled with (`readArgument_eq_ok_iff`).
So which command lines can be read is told by the arguments that stand for themselves, neither as
the path of an option nor behind a double hyphen (`Standing`): each of them has to fit, and the last
one must not lack its path. Reading stops in one of four places behind arguments that all fit
(`exists_stop`). It stops at the first one that does not fit, and nothing behind that one has a part
in the refusal.
-/

namespace Lexis.Command

/-- The argument can be read, if need be with a path behind it. -/
def Fits (argument : String) : Prop := ∃ reading, Spells argument reading

/-- The argument is an option that takes the next argument as its path: the long one without an
equals sign, or a cluster that ends with the letter of a path. -/
def TakesPath (argument : String) : Prop :=
  argument = "--file" ∨ ∃ letters : List Letter, argument = cluster letters ['f']

/-- Reading comes past these arguments to the next one: none of them ends the options, and each
option among them that takes a path has it there. -/
inductive Passed : List String → Prop where
  | nothing : Passed []
  | alone {argument : String} {rest : List String} (goesOn : argument ≠ "--")
      (complete : ¬TakesPath argument) (passed : Passed rest) : Passed (argument :: rest)
  | withPath {argument : String} {rest : List String} (takes : TakesPath argument) (path : String)
      (passed : Passed rest) : Passed (argument :: path :: rest)

/-- An argument of a command line stands for itself: it is not the path of an option, and neither a
double hyphen that ends the options nor behind one. -/
def Standing (arguments : List String) (argument : String) : Prop :=
  argument ≠ "--" ∧ ∃ front rest, Passed front ∧ arguments = front ++ argument :: rest

/-- The ways to read a cluster: its letters and nothing more, or a path behind them, or the letter
of a path that is due. -/
inductive ClusterCase : List Char → Reading → Prop where
  | letters (letters : List Letter) :
    ClusterCase (letters.map Letter.character) (.complete (letters.map Letter.item))
  | path (letters : List Letter) {path : List Char} (filled : path ≠ []) :
    ClusterCase (letters.map Letter.character ++ 'f' :: path)
      (.complete (letters.map Letter.item ++ [.file (String.ofList path)]))
  | due (letters : List Letter) :
    ClusterCase (letters.map Letter.character ++ ['f']) (.awaiting (letters.map Letter.item) "-f")

/-- One more letter in front of a cluster. -/
theorem ClusterCase.cons (letter : Letter) {characters : List Char} {reading : Reading}
    (ends : ClusterCase characters reading) :
    ClusterCase (letter.character :: characters) (reading.prepend letter.item) := by
  cases ends with
  | letters letters => exact .letters (letter :: letters)
  | path letters filled => exact .path (letter :: letters) filled
  | due letters => exact .due (letter :: letters)

/-- A character in a cluster is the letter of a path, another letter, or unknown. -/
theorem shortMeaning?_cases (character : Char) :
    character = 'f' ∨ (∃ letter : Letter, character = letter.character) ∨
      shortMeaning? character = none := by
  by_cases path : character = 'f'
  · exact .inl path
  · by_cases types : character = 't'
    · exact .inr (.inl ⟨.typesOnly, types⟩)
    · by_cases loud : character = 'v'
      · exact .inr (.inl ⟨.verbose, loud⟩)
      · exact .inr (.inr (by simp [shortMeaning?, *]))

theorem readCluster_cons (letter : Letter) (rest : List Char) :
    readCluster (letter.character :: rest) =
      (readCluster rest).map (Reading.prepend letter.item) := by
  cases letter <;> rfl

/-- Whatever stands behind the letter of a path is that path. -/
theorem readCluster_path (rest : List Char) :
    readCluster ('f' :: rest) = if rest = [] then .ok (.awaiting [] "-f")
      else .ok (.complete [.file (String.ofList rest)]) := rfl

/-- A cluster that is read is read in one of these ways. -/
theorem clusterCase {characters : List Char} {reading : Reading}
    (read : readCluster characters = .ok reading) : ClusterCase characters reading := by
  induction characters generalizing reading with
  | nil =>
    obtain rfl := Except.ok.inj read
    exact .letters []
  | cons character characters ih =>
    obtain rfl | ⟨letter, rfl⟩ | unknown := shortMeaning?_cases character
    · rw [readCluster_path] at read
      split at read
      · rename_i last
        obtain rfl := Except.ok.inj read
        rw [last]
        exact .due []
      · rename_i more
        obtain rfl := Except.ok.inj read
        exact .path [] more
    · rw [readCluster_cons] at read
      cases later : readCluster characters with
      | error error =>
        rw [later] at read
        contradiction
      | ok said =>
        rw [later] at read
        obtain rfl := Except.ok.inj read
        exact (ih later).cons letter
    · rw [readCluster, unknown] at read
      contradiction

/-- A cluster that is read is spelled so. -/
theorem spells_of_readCluster {characters : List Char} {reading : Reading}
    (read : readCluster characters = .ok reading) (filled : characters ≠ []) :
    Spells (String.ofList ('-' :: characters)) reading := by
  cases clusterCase read with
  | letters letters =>
    have some : letters ≠ [] := by
      rintro rfl
      exact filled rfl
    simpa [cluster] using Spells.letters letters some
  | path letters written =>
    have filled : String.ofList _ ≠ "" := mt String.ofList_eq_empty_iff.1 written
    have spells := Spells.lettersPath letters (String.ofList _) filled
    rwa [String.toList_ofList] at spells
  | due letters => exact .lettersPathDue letters

/-- The long options are the one for a path and those of the switches and the notices. -/
theorem longMeaning?_cases {name : String} {meaning : Meaning}
    (known : longMeaning? name = some meaning) :
    (name = "--file" ∧ meaning = .file) ∨
      (∃ switch : Switch, name = switch.name ∧ meaning = .switch switch) ∨
      ∃ notice : Notice, name = notice.name ∧ meaning = .notice notice := by
  obtain ⟨option, found, rfl⟩ := Option.map_eq_some_iff.1 known
  have same : option.1 = name := by simpa using List.find?_some found
  have listed := List.mem_of_find?_eq_some found
  rw [← same]
  simp only [longOptions, List.mem_cons, List.not_mem_nil, or_false] at listed
  obtain rfl | rfl | rfl | rfl | rfl | rfl | rfl := listed
  · exact .inl ⟨rfl, rfl⟩
  · exact .inr (.inl ⟨.strictEmpty, rfl, rfl⟩)
  · exact .inr (.inl ⟨.appendEof, rfl, rfl⟩)
  · exact .inr (.inl ⟨.typesOnly, rfl, rfl⟩)
  · exact .inr (.inl ⟨.verbose, rfl, rfl⟩)
  · exact .inr (.inr ⟨.version, rfl, rfl⟩)
  · exact .inr (.inr ⟨.help, rfl, rfl⟩)

/-- An argument is cut at its first equals sign, if it has one. -/
theorem optionName_append (argument : String) :
    argument = optionName argument ++
      match optionValue? argument with
      | none => ""
      | some value => "=" ++ value := by
  have cut : argument.toList.takeWhile (· != '=') ++ argument.toList.dropWhile (· != '=') =
      argument.toList := List.takeWhile_append_dropWhile
  rw [← String.toList_inj, String.toList_append, optionName, String.toList_ofList]
  conv_lhs => rw [← cut]
  rw [List.append_right_inj]
  unfold optionValue?
  cases behind : argument.toList.dropWhile (· != '=') with
  | nil => rfl
  | cons sign value =>
    have filled : argument.toList.dropWhile (· != '=') ≠ [] := by simp [behind]
    have equals : sign = '=' := by simpa [behind] using List.head_dropWhile_not (· != '=') filled
    simp [equals]

/-- A long option that is read is spelled so. -/
theorem spells_of_readLong {argument : String} {meaning : Meaning} {reading : Reading}
    (known : longMeaning? (optionName argument) = some meaning)
    (read : readLong (optionName argument) meaning (optionValue? argument) = .ok reading) :
    Spells argument reading := by
  have whole := optionName_append argument
  cases given : optionValue? argument with
  | none =>
    rw [given] at read whole
    rw [String.append_empty] at whole
    rw [← whole] at known read
    obtain ⟨rfl, rfl⟩ | ⟨switch, rfl, rfl⟩ | ⟨notice, rfl, rfl⟩ := longMeaning?_cases known
    · obtain rfl := Except.ok.inj read
      exact .pathDue
    · obtain rfl := Except.ok.inj read
      exact .switch switch
    · obtain rfl := Except.ok.inj read
      exact .notice notice
  | some value =>
    rw [given] at read whole
    -- Only the option for a path takes what stands behind the equals sign.
    obtain ⟨name, rfl⟩ | ⟨switch, name, rfl⟩ | ⟨notice, name, rfl⟩ := longMeaning?_cases known
    · obtain rfl := Except.ok.inj read
      rw [whole, name]
      have text : "--file" ++ ("=" ++ value) = "--file=" ++ value := by
        rw [← String.append_assoc]
        rfl
      rw [text]
      exact .pathAfterEquals value
    · contradiction
    · contradiction

/-- What an argument is read as is what it spells. -/
theorem readArgument_eq_ok_iff {argument : String} {reading : Reading} :
    readArgument argument = .ok reading ↔ Spells argument reading := by
  refine ⟨fun read => ?_, readArgument_of_spells⟩
  by_cases plain : isOption argument = false
  · rw [readArgument, plain] at read
    obtain rfl := Except.ok.inj read
    exact .lexeme (isOption_eq_false_iff.1 plain)
  · rw [Bool.not_eq_false] at plain
    rw [readArgument, if_pos plain, readOption] at read
    cases known : longMeaning? (optionName argument) with
    | some meaning =>
      rw [known] at read
      exact spells_of_readLong known read
    | none =>
      rw [known] at read
      unfold isOption at plain
      split at plain
      · rename_i letter rest cut
        have text : argument = String.ofList ('-' :: letter :: rest) := by
          rw [← cut, String.ofList_toList]
        simp only [cut, List.drop_succ_cons, List.drop_zero] at read
        split at read
        · contradiction
        · rw [text]
          exact spells_of_readCluster read (List.cons_ne_nil _ _)
      · contradiction

/-- An argument that cannot be read is no option, or is given a value that it does not take. -/
inductive Unreadable : ArgumentError → Prop where
  | unknown (name : String) : Unreadable (.unknownOption name)
  | unexpected (name : String) : Unreadable (.unexpectedValue name)

theorem unreadable_of_readCluster {characters : List Char} {error : ArgumentError}
    (failed : readCluster characters = .error error) : Unreadable error := by
  induction characters with
  | nil => contradiction
  | cons character characters ih =>
    obtain rfl | ⟨letter, rfl⟩ | unknown := shortMeaning?_cases character
    · rw [readCluster_path] at failed
      split at failed <;> contradiction
    · rw [readCluster_cons] at failed
      cases later : readCluster characters with
      | error other =>
        rw [later] at failed
        obtain rfl := Except.error.inj failed
        exact ih later
      | ok said =>
        rw [later] at failed
        contradiction
    · rw [readCluster, unknown] at failed
      obtain rfl := Except.error.inj failed
      exact .unknown _

/-- Nothing is missing in an argument that cannot be read by itself. -/
theorem unreadable_of_readArgument {argument : String} {error : ArgumentError}
    (failed : readArgument argument = .error error) : Unreadable error := by
  unfold readArgument at failed
  split at failed
  · unfold readOption at failed
    split at failed
    · unfold readLong at failed
      split at failed
      · contradiction
      · contradiction
      · contradiction
      · contradiction
      · obtain rfl := Except.error.inj failed
        exact .unexpected _
    · split at failed
      · obtain rfl := Except.error.inj failed
        exact .unknown _
      · exact unreadable_of_readCluster failed
  · contradiction

/-- The arguments that await a path are the options that take one. -/
theorem takesPath_iff {argument : String} :
    TakesPath argument ↔ ∃ said name, Spells argument (.awaiting said name) := by
  constructor
  · rintro (rfl | ⟨letters, rfl⟩)
    · exact ⟨[], "--file", .pathDue⟩
    · exact ⟨letters.map Letter.item, "-f", .lettersPathDue letters⟩
  · rintro ⟨said, name, spells⟩
    cases spells with
    | pathDue => exact .inl rfl
    | lettersPathDue letters => exact .inr ⟨letters, rfl⟩

/-- An option that takes a path can be read. -/
theorem TakesPath.fits {argument : String} (takes : TakesPath argument) : Fits argument := by
  obtain ⟨said, name, spells⟩ := takesPath_iff.1 takes
  exact ⟨_, spells⟩

/-- An argument that fits does not end the options. -/
theorem Fits.ne_doubleHyphen {argument : String} (fits : Fits argument) : argument ≠ "--" := by
  obtain ⟨reading, spells⟩ := fits
  exact spells.ne_doubleHyphen

/-- An argument that fits and takes no path is complete. -/
theorem Fits.complete {argument : String} (fits : Fits argument) (alone : ¬TakesPath argument) :
    ∃ said, Spells argument (.complete said) := by
  obtain ⟨reading, spells⟩ := fits
  cases reading with
  | complete said => exact ⟨said, spells⟩
  | awaiting said name => exact absurd (takesPath_iff.2 ⟨said, name, spells⟩) alone

/-- An option that takes a path is read with the next argument as that path. -/
theorem readArguments_awaiting {argument name : String} {said : List Item}
    (spells : Spells argument (.awaiting said name)) (path : String) (rest : List String) :
    readArguments (argument :: path :: rest) =
      (readArguments rest).map (said ++ .file path :: ·) := by
  rw [readArguments.eq_def]
  simp [spells.ne_doubleHyphen, readArgument_of_spells spells]

/-- An option that takes a path lacks it at the end of a command line. -/
theorem readArguments_due {argument name : String} {said : List Item}
    (spells : Spells argument (.awaiting said name)) :
    readArguments [argument] = .error (.missingValue name) := by
  simp [readArguments, spells.ne_doubleHyphen, readArgument_of_spells spells]

/-- Reading stops at an argument that cannot be read, whatever is behind it. -/
theorem readArguments_refused {argument : String} {error : ArgumentError}
    (goesOn : argument ≠ "--") (failed : readArgument argument = .error error)
    (rest : List String) : readArguments (argument :: rest) = .error error := by
  rw [readArguments.eq_def]
  simp [goesOn, failed]

section Standing

variable {first path argument : String} {front rest : List String}

theorem not_standing_nil : ¬Standing [] argument := by
  rintro ⟨_, front, rest, _, cut⟩
  exact absurd cut (by simp)

/-- Nothing stands for itself behind a double hyphen. -/
theorem not_standing_doubleHyphen : ¬Standing ("--" :: rest) argument := by
  rintro ⟨other, front, later, passed, cut⟩
  cases passed with
  | nothing => exact other (List.cons.inj cut).1.symm
  | alone goesOn => exact goesOn (List.cons.inj cut).1.symm
  | withPath takes => exact takes.fits.ne_doubleHyphen (List.cons.inj cut).1.symm

/-- Behind an argument without a path the next one stands for itself. -/
theorem standing_cons_iff (goesOn : first ≠ "--") (complete : ¬TakesPath first) :
    Standing (first :: rest) argument ↔ argument = first ∨ Standing rest argument := by
  constructor
  · rintro ⟨other, front, later, passed, cut⟩
    cases passed with
    | nothing => exact .inl (List.cons.inj cut).1.symm
    | alone _ _ passed => exact .inr ⟨other, _, later, passed, (List.cons.inj cut).2⟩
    | withPath takes => exact absurd ((List.cons.inj cut).1 ▸ takes) complete
  · rintro (rfl | ⟨other, front, later, passed, rfl⟩)
    · exact ⟨goesOn, [], rest, .nothing, rfl⟩
    · exact ⟨other, first :: front, later, .alone goesOn complete passed, rfl⟩

/-- The path of an option does not stand for itself. -/
theorem standing_cons_path_iff (takes : TakesPath first) :
    Standing (first :: path :: rest) argument ↔ argument = first ∨ Standing rest argument := by
  constructor
  · rintro ⟨other, front, later, passed, cut⟩
    cases passed with
    | nothing => exact .inl (List.cons.inj cut).1.symm
    | alone _ complete => exact absurd ((List.cons.inj cut).1 ▸ takes) complete
    | withPath _ _ passed =>
      exact .inr ⟨other, _, later, passed, (List.cons.inj (List.cons.inj cut).2).2⟩
  · rintro (rfl | ⟨other, front, later, passed, rfl⟩)
    · exact ⟨takes.fits.ne_doubleHyphen, [], path :: rest, .nothing, rfl⟩
    · exact ⟨other, first :: path :: front, later, .withPath takes path passed, rfl⟩

/-- What stands for itself behind arguments that reading comes past, does so without them. -/
theorem Passed.standing_append_iff (passed : Passed front) :
    Standing (front ++ rest) argument ↔ Standing front argument ∨ Standing rest argument := by
  induction passed with
  | nothing => simp [not_standing_nil]
  | alone goesOn complete _ ih =>
    rw [List.cons_append, standing_cons_iff goesOn complete, standing_cons_iff goesOn complete, ih,
      or_assoc]
  | withPath takes path _ ih =>
    rw [List.cons_append, List.cons_append, standing_cons_path_iff takes,
      standing_cons_path_iff takes, ih, or_assoc]

end Standing

/-- Every argument that stands for itself fits. -/
def AllFit (arguments : List String) : Prop :=
  ∀ argument, Standing arguments argument → Fits argument

/-- Arguments that fit and that reading comes past say some items, whatever is behind them. -/
theorem Passed.exists_items {front : List String} (passed : Passed front) (fit : AllFit front) :
    ∃ items, ∀ rest, readArguments (front ++ rest) = (readArguments rest).map (items ++ ·) := by
  induction passed with
  | nothing =>
    refine ⟨[], fun rest => ?_⟩
    rw [List.nil_append]
    cases readArguments rest <;> rfl
  | @alone argument front goesOn complete _ ih =>
    obtain ⟨said, spells⟩ := Fits.complete
      (fit argument ((standing_cons_iff goesOn complete).2 (.inl rfl))) complete
    obtain ⟨items, later⟩ := ih fun other standing =>
      fit other ((standing_cons_iff goesOn complete).2 (.inr standing))
    refine ⟨said ++ items, fun rest => ?_⟩
    rw [List.cons_append, readArguments_cons spells, later]
    cases readArguments rest <;> simp [Except.map]
  | @withPath argument front takes path _ ih =>
    obtain ⟨said, name, spells⟩ := takesPath_iff.1 takes
    obtain ⟨items, later⟩ := ih fun other standing =>
      fit other ((standing_cons_path_iff takes).2 (.inr standing))
    refine ⟨said ++ .file path :: items, fun rest => ?_⟩
    rw [List.cons_append, List.cons_append, readArguments_awaiting spells, later]
    cases readArguments rest <;> simp [Except.map]

/-- The places where reading stops: the end, the end of the options, an option that lacks its path,
and an argument that cannot be read. -/
inductive Stop : List String → Prop where
  | finished : Stop []
  | optionsEnd (texts : List String) : Stop ("--" :: texts)
  | due {last : String} (takes : TakesPath last) : Stop [last]
  | refused {bad : String} (goesOn : bad ≠ "--") (unfit : ¬Fits bad) (rest : List String) :
    Stop (bad :: rest)

theorem allFit_nil : AllFit [] := fun _ standing => absurd standing not_standing_nil

/-- One more argument that fits stands in front of those that fit. -/
theorem AllFit.cons {argument : String} {front : List String} (goesOn : argument ≠ "--")
    (complete : ¬TakesPath argument) (fits : Fits argument) (fit : AllFit front) :
    AllFit (argument :: front) := by
  intro other standing
  obtain rfl | standing := (standing_cons_iff goesOn complete).1 standing
  · exact fits
  · exact fit other standing

/-- One more option with its path stands in front of arguments that fit. -/
theorem AllFit.cons_path {argument path : String} {front : List String}
    (takes : TakesPath argument) (fit : AllFit front) : AllFit (argument :: path :: front) := by
  intro other standing
  obtain rfl | standing := (standing_cons_path_iff takes).1 standing
  · exact takes.fits
  · exact fit other standing

/-- Reading comes past arguments that all fit, and stops. -/
theorem exists_stop (arguments : List String) : ∃ front rest, arguments = front ++ rest ∧
    Passed front ∧ AllFit front ∧ Stop rest := by
  match arguments with
  | [] => exact ⟨[], [], rfl, .nothing, allFit_nil, .finished⟩
  | argument :: rest =>
    by_cases ends : argument = "--"
    · subst ends
      exact ⟨[], "--" :: rest, rfl, .nothing, allFit_nil, .optionsEnd rest⟩
    · by_cases takes : TakesPath argument
      · match rest with
        | [] => exact ⟨[], [argument], rfl, .nothing, allFit_nil, .due takes⟩
        | path :: rest =>
          obtain ⟨front, later, rfl, passed, fit, stop⟩ := exists_stop rest
          exact ⟨argument :: path :: front, later, rfl, .withPath takes path passed,
            fit.cons_path takes, stop⟩
      · by_cases fits : Fits argument
        · obtain ⟨front, later, rfl, passed, fit, stop⟩ := exists_stop rest
          exact ⟨argument :: front, later, rfl, .alone ends takes passed,
            fit.cons ends takes fits, stop⟩
        · exact ⟨[], argument :: rest, rfl, .nothing, allFit_nil, .refused ends fits rest⟩

/-- An argument does not fit exactly when it cannot be read by itself. -/
theorem not_fits_iff {argument : String} :
    ¬Fits argument ↔ ∃ error, readArgument argument = .error error := by
  unfold Fits
  simp only [← readArgument_eq_ok_iff]
  cases readArgument argument <;> simp

/-- How the reading of a command line ends. -/
inductive Ending : List String → Except ArgumentError (List Item) → Prop where
  | read {arguments : List String} {items : List Item} (fit : AllFit arguments) :
    Ending arguments (.ok items)
  | lacking {front : List String} {last name : String} (passed : Passed front)
      (fit : AllFit front) (takes : TakesPath last) :
    Ending (front ++ [last]) (.error (.missingValue name))
  | refused {front : List String} {bad : String} {error : ArgumentError} (passed : Passed front)
      (fit : AllFit front) (goesOn : bad ≠ "--") (failed : readArgument bad = .error error)
      (rest : List String) : Ending (front ++ bad :: rest) (.error error)

/-- The reading of every command line ends in one of these ways. -/
theorem ending (arguments : List String) : Ending arguments (readArguments arguments) := by
  obtain ⟨front, rest, rfl, passed, fit, stop⟩ := exists_stop arguments
  obtain ⟨items, later⟩ := passed.exists_items fit
  have whole (nothing : ∀ argument, ¬Standing rest argument) : AllFit (front ++ rest) := by
    intro argument standing
    exact fit argument ((passed.standing_append_iff.1 standing).resolve_right (nothing argument))
  rw [later]
  cases stop with
  | finished => exact .read (whole fun _ => not_standing_nil)
  | optionsEnd texts =>
    rw [readArguments_doubleHyphen]
    exact .read (whole fun _ => not_standing_doubleHyphen)
  | due takes =>
    obtain ⟨said, name, spells⟩ := takesPath_iff.1 takes
    rw [readArguments_due spells]
    exact .lacking passed fit takes
  | refused goesOn unfit rest =>
    obtain ⟨error, failed⟩ := not_fits_iff.1 unfit
    rw [readArguments_refused goesOn failed]
    exact .refused passed fit goesOn failed rest

/-- A command line can be read exactly when all its arguments fit, unless its end lacks a path. -/
theorem exists_readArguments_eq_ok_iff {arguments : List String}
    (supplied : ∀ name, readArguments arguments ≠ .error (.missingValue name)) :
    (∃ items, readArguments arguments = .ok items) ↔ AllFit arguments := by
  have ends := ending arguments
  generalize readArguments arguments = result at ends supplied ⊢
  cases ends with
  | read fit => exact iff_of_true ⟨_, rfl⟩ fit
  | lacking => exact absurd rfl (supplied _)
  | @refused front bad error passed fit goesOn failed rest =>
    have standing : Standing (front ++ bad :: rest) bad := ⟨goesOn, front, rest, passed, rfl⟩
    exact iff_of_false (by simp) fun whole => not_fits_iff.2 ⟨error, failed⟩ (whole bad standing)

/-- A command line lacks a path exactly when its last argument stands for itself and takes one, and
all before it fit. -/
theorem exists_missingValue_iff {arguments : List String} :
    (∃ name, readArguments arguments = .error (.missingValue name)) ↔
      ∃ front last, arguments = front ++ [last] ∧ Passed front ∧ AllFit front ∧
        TakesPath last := by
  constructor
  · rintro ⟨name, missing⟩
    have ends := ending arguments
    rw [missing] at ends
    cases ends with
    | lacking passed fit takes => exact ⟨_, _, rfl, passed, fit, takes⟩
    | refused passed fit goesOn failed =>
      have unreadable := unreadable_of_readArgument failed
      contradiction
  · rintro ⟨front, last, rfl, passed, fit, takes⟩
    obtain ⟨items, later⟩ := passed.exists_items fit
    obtain ⟨said, name, spells⟩ := takesPath_iff.1 takes
    rw [later, readArguments_due spells]
    exact ⟨name, rfl⟩

/-- A command line is refused for an argument exactly when that is the first one that does not
fit. -/
theorem readArguments_eq_error_iff {arguments : List String} {error : ArgumentError}
    (unreadable : Unreadable error) :
    readArguments arguments = .error error ↔ ∃ front bad rest, arguments = front ++ bad :: rest ∧
      Passed front ∧ AllFit front ∧ bad ≠ "--" ∧ readArgument bad = .error error := by
  constructor
  · intro refused
    have ends := ending arguments
    rw [refused] at ends
    cases ends with
    | lacking => contradiction
    | refused passed fit goesOn failed rest =>
      exact ⟨_, _, rest, rfl, passed, fit, goesOn, failed⟩
  · rintro ⟨front, bad, rest, rfl, passed, fit, goesOn, failed⟩
    obtain ⟨items, later⟩ := passed.exists_items fit
    rw [later, readArguments_refused goesOn failed]
    rfl

/-- What is behind an argument that does not fit has no part in the refusal. -/
theorem readArguments_append_of_unreadable {arguments : List String} {error : ArgumentError}
    (unreadable : Unreadable error) (refused : readArguments arguments = .error error)
    (extra : List String) : readArguments (arguments ++ extra) = .error error := by
  obtain ⟨front, bad, rest, rfl, passed, fit, goesOn, failed⟩ :=
    (readArguments_eq_error_iff unreadable).1 refused
  refine (readArguments_eq_error_iff unreadable).2
    ⟨front, bad, rest ++ extra, ?_, passed, fit, goesOn, failed⟩
  rw [List.append_assoc, List.cons_append]

/-- The first argument that does not fit decides the refusal of a command line: the run is the same
whatever else is written behind it, stands in files or comes from standard input. A path is lacking
exactly at the end of a command line, where the last argument stands for itself and takes one behind
arguments that fit. Every other command line can be read exactly when each argument that stands for
itself fits. -/
theorem first_unfit_argument_decides (arguments : List String) :
    (∀ error, readArguments arguments = .error error →
      ((∃ name, error = .unknownOption name) ∨ ∃ name, error = .unexpectedValue name) →
      (∃ front bad rest, arguments = front ++ bad :: rest ∧ Passed front ∧
        (∀ argument, Standing front argument → Fits argument) ∧ bad ≠ "--" ∧ ¬Fits bad ∧
        readArgument bad = .error error) ∧
      ∃ left : Outcome, left.exit.code = 2 ∧ left.stdout = "" ∧ left.stderr ≠ "" ∧
        ∀ extra entry stdin, run arguments entry stdin = .ok left ∧
          run (arguments ++ extra) entry stdin = .ok left) ∧
    ((∃ name, readArguments arguments = .error (.missingValue name)) ↔
      ∃ front last, arguments = front ++ [last] ∧ Passed front ∧
        (∀ argument, Standing front argument → Fits argument) ∧ TakesPath last) ∧
    ((¬∃ name, readArguments arguments = .error (.missingValue name)) →
      ((∃ items, readArguments arguments = .ok items) ↔
        ∀ argument, Standing arguments argument → Fits argument)) := by
  refine ⟨fun error refused sort => ?_, exists_missingValue_iff, fun supplied => ?_⟩
  · have unreadable : Unreadable error := by
      obtain ⟨name, rfl⟩ | ⟨name, rfl⟩ := sort
      · exact .unknown name
      · exact .unexpected name
    obtain ⟨front, bad, rest, cut, passed, fit, goesOn, failed⟩ :=
      (readArguments_eq_error_iff unreadable).1 refused
    refine ⟨⟨front, bad, rest, cut, passed, fit, goesOn, not_fits_iff.2 ⟨error, failed⟩, failed⟩,
      (Refusal.arguments error).outcome, rfl, rfl, printedLines_append_ne_empty _ _,
      fun extra entry stdin => ⟨?_, ?_⟩⟩
    · exact run_of_readArguments_error refused entry stdin
    · have longer := readArguments_append_of_unreadable unreadable refused extra
      exact run_of_readArguments_error longer entry stdin
  · exact exists_readArguments_eq_ok_iff (not_exists.1 supplied)

/-- A double hyphen that is a path ends no options, and help that is asked for behind a refused
argument is not given. An option that is a path takes none itself, and one behind it lacks its path.
Behind the end of the options nothing has to fit. -/
theorem first_unfit_argument_decides_paths_like_options :
    readArguments ["-tf", "--", "--eof=1"] = .error (.unexpectedValue "--eof") ∧
    (∀ entry stdin, run ["-tf", "--", "--eof=1", "--help"] entry stdin =
      run ["-tf", "--", "--eof=1"] entry stdin) ∧
    (∃ name, readArguments ["-f", "-f", "-vf"] = .error (.missingValue name)) ∧
    (¬∃ name, readArguments ["-", "-tf=", "--", "-x"] = .error (.missingValue name)) ∧
    ∀ argument, Standing ["-", "-tf=", "--", "-x"] argument → Fits argument := by
  have refused : readArguments ["-tf", "--", "--eof=1"] = .error (.unexpectedValue "--eof") := rfl
  have read : readArguments ["-", "-tf=", "--", "-x"] =
      .ok [.lexeme "-", .switch .typesOnly, .file "=", .lexeme "-x"] := rfl
  have supplied : ¬∃ name, readArguments ["-", "-tf=", "--", "-x"] =
      .error (.missingValue name) := by simp [read]
  obtain ⟨decides, _⟩ := first_unfit_argument_decides ["-tf", "--", "--eof=1"]
  obtain ⟨_, left, _, _, _, same⟩ := decides _ refused (.inr ⟨_, rfl⟩)
  obtain ⟨_, lacking, _⟩ := first_unfit_argument_decides ["-f", "-f", "-vf"]
  have takes : TakesPath "-f" := .inr ⟨[], rfl⟩
  obtain ⟨_, _, fitting⟩ := first_unfit_argument_decides ["-", "-tf=", "--", "-x"]
  refine ⟨refused, fun entry stdin => ?_, ?_, supplied, (fitting supplied).1 ⟨_, read⟩⟩
  · obtain ⟨shorter, longer⟩ := same ["--help"] entry stdin
    exact longer.trans shorter.symm
  · exact lacking.2 ⟨["-f", "-f"], "-vf", rfl, .withPath takes "-f" .nothing,
      allFit_nil.cons_path takes, .inr ⟨[.verbose], rfl⟩⟩

end Lexis.Command
