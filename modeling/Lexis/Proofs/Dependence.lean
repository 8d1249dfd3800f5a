import Lexis.Proofs.Endings
import Lexis.Proofs.NormalForm

/-!
# What a run depends on

A run reads at most one thing: standard input where no notice, lexeme or path is given, or else the
file at the last path where that is all that is asked for. Of all other files it depends on where
they stand and not on what they hold. Files without their contents (`Directory.emptied`) have the
same entries without theirs (`Directory.entry_emptied`), so two sets of files that differ in
contents alone answer every path alike up to contents, and a request that does not read the file at
its path cannot tell them apart (`Invocation.outcome_congr_entry`). A notice comes before anything
is looked up or read.
-/

namespace Lexis.Command

/-- The node without its content. -/
def Node.emptied : Node → Node
  | .directory => .directory
  | .file _ => .file []

/-- The place without its content. -/
def Place.emptied : Place → Place
  | .directory location => .directory location
  | .file _ => .file []

/-- What a path leads to, without its content. -/
def Entry.emptied : Entry → Entry
  | .missing => .missing
  | .directory => .directory
  | .file _ => .file []

namespace Directory

/-- The same files and directories without any contents. -/
def emptied (directory : Directory) : Directory :=
  ⟨directory.nodes.map (Prod.map id Node.emptied)⟩

/-- The working directory with some files and directories in it, each at its path. -/
def ofFiles (files : List (String × Node)) : Directory :=
  files.foldl (fun directory file => directory.put file.1 file.2) empty

theorem find?_emptied (directory : Directory) (location : Location) :
    directory.emptied.find? location = (directory.find? location).map Node.emptied := by
  simp only [find?, emptied, List.find?_map, Option.map_map]
  rfl

/-- A component is followed alike without contents. -/
theorem follow_emptied (directory : Directory) (place : Place) (component : String) :
    directory.emptied.follow place.emptied component =
      (directory.follow place component).map Place.emptied := by
  cases place with
  | file content => rfl
  | directory location =>
    simp only [follow, Place.emptied, find?_emptied]
    by_cases moves : Path.isIdle component ∨ component = ".."
    · rw [if_pos moves, if_pos moves]
      rfl
    · rw [if_neg moves, if_neg moves]
      rcases directory.find? (location.step component) with _ | (_ | content) <;> rfl

/-- Components are followed alike without contents. -/
theorem foldlM_follow_emptied (directory : Directory) (place : Place) (components : List String) :
    components.foldlM directory.emptied.follow place.emptied =
      (components.foldlM directory.follow place).map Place.emptied := by
  induction components generalizing place with
  | nil => rfl
  | cons component components ih =>
    rw [List.foldlM_cons, List.foldlM_cons, follow_emptied]
    cases directory.follow place component with
    | none => rfl
    | some next => exact ih next

/-- Without contents a path leads to the same, without its content. -/
theorem entry_emptied (directory : Directory) (path : String) :
    directory.emptied.entry path = (directory.entry path).emptied := by
  unfold entry
  split
  · rfl
  · split
    · split <;> rfl
    · have followed : (Path.components path).foldlM directory.emptied.follow (.directory .here) =
          ((Path.components path).foldlM directory.follow (.directory .here)).map Place.emptied :=
        directory.foldlM_follow_emptied (.directory .here) (Path.components path)
      rw [followed]
      rcases (Path.components path).foldlM directory.follow (.directory .here) with _ | (_ | _) <;>
        rfl

theorem put_emptied (directory : Directory) (path : String) (node : Node) :
    (directory.put path node).emptied = directory.emptied.put path node.emptied := by
  simp only [put, emptied, List.map_cons, List.map_append, List.map_map]
  rfl

/-- Files that are put somewhere and emptied are emptied files that are put there. -/
theorem ofFiles_emptied (files : List (String × Node)) :
    (ofFiles files).emptied = ofFiles (files.map (Prod.map id Node.emptied)) := by
  have grows (start : Directory) :
      (files.foldl (fun directory file => directory.put file.1 file.2) start).emptied =
        (files.map (Prod.map id Node.emptied)).foldl
          (fun directory file => directory.put file.1 file.2) start.emptied := by
    induction files generalizing start with
    | nil => rfl
    | cons file files ih =>
      rw [List.foldl_cons, ih, put_emptied, List.map_cons, List.foldl_cons]
      rfl
  exact grows empty

/-- Files with the same paths that are directories at the same ones answer every path alike, up to
contents. -/
theorem entry_ofFiles_emptied {files changed : List (String × Node)}
    (same : files.map (Prod.map id Node.emptied) = changed.map (Prod.map id Node.emptied))
    (path : String) :
    ((ofFiles files).entry path).emptied = ((ofFiles changed).entry path).emptied := by
  rw [← entry_emptied, ofFiles_emptied, same, ← ofFiles_emptied, entry_emptied]

end Directory

namespace Invocation

variable {invocation : Invocation} {entry other : String → Entry}

/-- A request that does not read standard input does not depend on it. -/
theorem outcome_congr_stdin (elsewhere : invocation.readsStandardInput = false)
    (entry : String → Entry) (stdin changed : List UInt8) :
    invocation.outcome entry stdin = invocation.outcome entry changed := by
  cases asked : invocation.notice? with
  | some notice => simp only [outcome, asked]
  | none =>
    cases given : invocation.file? with
    | some path => simp only [outcome, asked, given]
    | none =>
      have some : invocation.lexemes ≠ [] := by
        rintro alone
        simp [readsStandardInput, asked, given, alone] at elsewhere
      rw [outcome_of_lexemes asked given some, outcome_of_lexemes asked given some]

/-- A request depends on contents only where it reads the file at its path. -/
theorem outcome_congr_entry (alike : ∀ path, (entry path).emptied = (other path).emptied)
    (read : ∀ path, invocation.notice? = none → invocation.lexemes = [] →
      invocation.file? = some path → entry path = other path) (stdin : List UInt8) :
    invocation.outcome entry stdin = invocation.outcome other stdin := by
  cases asked : invocation.notice? with
  | some notice => simp only [outcome, asked]
  | none =>
    cases given : invocation.file? with
    | none => simp only [outcome, asked, given]
    | some path =>
      by_cases alone : invocation.lexemes = []
      · simp only [outcome, asked, given, read path asked alone given]
      -- Beside lexemes a file is refused unread, so it only matters that there is one.
      · have status := alike path
        simp only [outcome, asked, given, alone, ↓reduceIte]
        generalize entry path = first at status
        generalize other path = second at status
        cases first <;> cases second <;> simp [Entry.emptied] at status ⊢

/-- Standard input is not read where items ask for a notice, or give a lexeme or a path. -/
theorem readsStandardInput_ofItems {items : List Item}
    (elsewhere : (∃ notice, .notice notice ∈ items) ∨ (∃ text, .lexeme text ∈ items) ∨
      ∃ path, .file path ∈ items) : (ofItems items).readsStandardInput = false := by
  refine Bool.eq_false_iff.2 fun reads => ?_
  simp only [readsStandardInput, Bool.and_eq_true, Option.isNone_iff_eq_none,
    List.isEmpty_iff] at reads
  obtain ⟨⟨silent, noFile⟩, alone⟩ := reads
  rcases elsewhere with ⟨notice, listed⟩ | ⟨text, listed⟩ | ⟨path, listed⟩
  · exact ofItems_notice?_eq_none_iff.1 silent notice listed
  · exact ofItems_lexemes_eq_nil_iff.1 alone text listed
  · exact ofItems_file?_eq_none_iff.1 noFile path listed

/-- The notice that is shown is the first one among the items. -/
theorem ofItems_notice? {front back : List Item} {notice : Notice}
    (first : ∀ other, .notice other ∉ front) :
    (ofItems (front ++ .notice notice :: back)).notice? = some notice := by
  have before : (front.filterMap Item.notice?).head? = none := ofItems_notice?_eq_none_iff.2 first
  change ((front ++ .notice notice :: back).filterMap Item.notice?).head? = some notice
  rw [List.filterMap_append, List.head?_append, before]
  rfl

end Invocation

/-- Runs of one command line are equal where the outcomes of its request are. -/
theorem run_eq_run_of_outcome {arguments : List String} {entry other : String → Entry}
    {stdin changed : List UInt8}
    (same : ∀ invocation, Invocation.ofArguments arguments = .ok invocation →
      invocation.outcome entry stdin = invocation.outcome other changed) :
    run arguments entry stdin = run arguments other changed := by
  have outcomes : outcome arguments entry stdin = outcome arguments other changed := by
    rw [outcome, outcome]
    cases request : Invocation.ofArguments arguments with
    | error error => rfl
    | ok invocation => exact same invocation request
  rw [run, run, outcomes]

/-- A run does not depend on standard input unless its command line can be read and has no notice,
no lexeme and no path. Of files with the same paths it depends on contents only where its command
line has a path, no lexeme and no notice, and then on the file at the last path alone. Where a
notice is asked for, nothing but the first one counts. -/
theorem run_depends_on_what_it_reads (arguments : List String) :
    ((∀ items, readArguments arguments = .ok items →
        (∃ notice, .notice notice ∈ items) ∨ (∃ text, .lexeme text ∈ items) ∨
          ∃ path, .file path ∈ items) →
      ∀ entry stdin changed, run arguments entry stdin = run arguments entry changed) ∧
    (∀ files changed : List (String × Node),
      files.map (Prod.map id Node.emptied) = changed.map (Prod.map id Node.emptied) →
      (∀ items path, readArguments arguments = .ok items → lastPath? items = some path →
        (∀ text, .lexeme text ∉ items) → (∀ notice, .notice notice ∉ items) →
        (Directory.ofFiles files).entry path = (Directory.ofFiles changed).entry path) →
      ∀ stdin, run arguments (Directory.ofFiles files).entry stdin =
        run arguments (Directory.ofFiles changed).entry stdin) ∧
    ∀ front notice back, readArguments arguments = .ok (front ++ .notice notice :: back) →
      (∀ other, .notice other ∉ front) →
      ∀ entry stdin, run arguments entry stdin = .ok notice.outcome := by
  refine ⟨fun elsewhere entry stdin changed => ?_, fun files changed same read stdin => ?_,
    fun front notice back read first entry stdin => ?_⟩
  · refine run_eq_run_of_outcome fun invocation request => ?_
    obtain ⟨items, read, rfl⟩ := Invocation.ofArguments_eq_ok_iff.1 request
    have unread := Invocation.readsStandardInput_ofItems (elsewhere items read)
    exact Invocation.outcome_congr_stdin unread entry stdin changed
  · refine run_eq_run_of_outcome fun invocation request => ?_
    obtain ⟨items, readItems, rfl⟩ := Invocation.ofArguments_eq_ok_iff.1 request
    refine Invocation.outcome_congr_entry (Directory.entry_ofFiles_emptied same) ?_ stdin
    intro path silent alone given
    have noNotice := Invocation.ofItems_notice?_eq_none_iff.1 silent
    have noLexeme := Invocation.ofItems_lexemes_eq_nil_iff.1 alone
    exact read items path readItems given noLexeme noNotice
  · have request : Invocation.ofArguments arguments =
        .ok (.ofItems (front ++ .notice notice :: back)) :=
      Invocation.ofArguments_eq_ok_iff.2 ⟨_, read, rfl⟩
    have asked : (Invocation.ofItems (front ++ .notice notice :: back)).notice? = some notice :=
      Invocation.ofItems_notice? first
    have unnamed : lookedUp? arguments = none := by
      rw [lookedUp?, request]
      simp [Except.toOption, Invocation.lookedUp?, asked]
    rw [run, holdsNull, unnamed, outcome, request]
    simp only [Option.any_none, Invocation.outcome, asked]
    rfl

/-- A file beside a lexeme is refused before it turns out not to be text, and standard input is left
alone with it; the first notice is shown although there is another one and the path is empty. -/
theorem run_depends_on_what_it_reads_past_conflict :
    run ["-f", "a", "x"] (Directory.ofFiles [("a", .file [0xFF])]).entry [] =
      run ["-f", "a", "x"] (Directory.ofFiles [("a", .file [0x78])]).entry [] ∧
    run ["-f", "a", "x"] (Directory.ofFiles [("a", .file [0xFF])]).entry [0xFF] =
      run ["-f", "a", "x"] (Directory.ofFiles [("a", .file [0xFF])]).entry [] ∧
    run ["-f", "", "--version", "--help"] (fun _ => .missing) [0xFF] =
      .ok Notice.version.outcome := by
  have conflict : readArguments ["-f", "a", "x"] = .ok [.file "a", .lexeme "x"] :=
    readArguments_of_written <|
      .withPath (.lettersPathDue []) "a" (.complete (.lexeme (.inr (by decide))) .nothing)
  have notices : readArguments ["-f", "", "--version", "--help"] =
      .ok [.file "", .notice .version, .notice .help] :=
    readArguments_of_written <|
      .withPath (.lettersPathDue []) "" <|
      .complete (.notice .version) (.complete (.notice .help) .nothing)
  refine ⟨(run_depends_on_what_it_reads _).2.1 _ _ rfl ?_ [],
    (run_depends_on_what_it_reads _).1 ?_ _ _ _,
    (run_depends_on_what_it_reads _).2.2 [.file ""] .version [.notice .help] notices (by simp) _ _⟩
  · intro items path read last alone
    obtain rfl := Except.ok.inj (conflict.symm.trans read)
    exact absurd (by simp) (alone "x")
  · intro items read
    obtain rfl := Except.ok.inj (conflict.symm.trans read)
    exact .inr (.inl ⟨"x", by simp⟩)

end Lexis.Command
