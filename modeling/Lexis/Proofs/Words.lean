import Lexis.Proofs.Construction
import Mathlib.Logic.ExistsUnique

/-!
# Words and construction

Which texts are reserved is decided twice: by the rules that classify a word, and by the checks of
construction. The two agree on every text. The three look-ups of a word exclude each other
(`WordCase`), so each text is a mark, a number or a name; a classified word passes construction
(`buildWord_eq_ok`), and its rules give the same token in any order (`filterMap_wordRules`).
-/

namespace Lexis

/-- No mark is spelled with digits. -/
theorem Mark.isDigitRun_spelling (mark : Mark) : isDigitRun mark.spelling = false := by
  revert mark
  exact forall_iff_all.2 (by decide)

/-- A run of digits is the spelling of no mark. -/
theorem Mark.spelled?_of_isDigitRun (marks : List Mark) {text : String}
    (run : isDigitRun text = true) : spelled? marks text = none := by
  refine spelled?_eq_none_iff.2 fun mark _ same => ?_
  rw [← same, isDigitRun_spelling] at run
  contradiction

/-- No text is both a pair and a reserved word. -/
theorem Mark.spelled?_words_of_pairs {text : String} {mark : Mark}
    (found : spelled? pairs text = some mark) : spelled? words text = none := by
  have apart : ∀ pair ∈ pairs, pair ∉ words := by decide
  obtain ⟨listed, rfl⟩ := spelled?_eq_some_iff.1 found
  rw [spelled?_spelling, if_neg (apart mark listed)]

/-- The ways of a word: at most one of the three look-ups succeeds. -/
inductive WordCase (text : String) : Prop where
  | pair (mark : Mark) (pairs : Mark.spelled? Mark.pairs text = some mark)
      (words : Mark.spelled? Mark.words text = none) (digits : isDigitRun text = false)
  | keyword (mark : Mark) (pairs : Mark.spelled? Mark.pairs text = none)
      (words : Mark.spelled? Mark.words text = some mark) (digits : isDigitRun text = false)
  | number (pairs : Mark.spelled? Mark.pairs text = none)
      (words : Mark.spelled? Mark.words text = none) (digits : isDigitRun text = true)
  | name (pairs : Mark.spelled? Mark.pairs text = none)
      (words : Mark.spelled? Mark.words text = none) (digits : isDigitRun text = false)

/-- Every text goes one of these ways. -/
theorem wordCase (text : String) : WordCase text := by
  have noDigits {marks : List Mark} {mark : Mark}
      (found : Mark.spelled? marks text = some mark) : isDigitRun text = false := by
    obtain ⟨_, rfl⟩ := Mark.spelled?_eq_some_iff.1 found
    exact mark.isDigitRun_spelling
  cases pairs : Mark.spelled? Mark.pairs text with
  | some mark => exact .pair mark pairs (Mark.spelled?_words_of_pairs pairs) (noDigits pairs)
  | none =>
    cases words : Mark.spelled? Mark.words text with
    | some mark => exact .keyword mark pairs words (noDigits words)
    | none =>
      cases digits : isDigitRun text with
      | true => exact .number pairs words digits
      | false => exact .name pairs words digits

theorem ne_empty_of_isDigitRun {text : String} (run : isDigitRun text = true) : text ≠ "" :=
  (isDigitRun_iff.1 run).1

/-- A mark that is found in one of the two groups of words is not the empty text. -/
theorem Mark.ne_empty_of_spelled? {text : String} {mark : Mark}
    (found : spelled? pairs text = some mark ∨ spelled? words text = some mark) : text ≠ "" := by
  have filled : ∀ member ∈ pairs ++ words, member.spelling ≠ "" := by decide
  rcases found with found | found
  all_goals
    obtain ⟨listed, rfl⟩ := spelled?_eq_some_iff.1 found
    exact filled mark (by simp [listed])

namespace Token

/-- Classify a word as `ofWord` does, but build every token from a kind and a payload, so that each
is checked like any token that is built. -/
def buildWord (emptyIsIllegal : Bool) (text : String) : Except BuildError Token :=
  match (Mark.spelled? Mark.pairs text).or (Mark.spelled? Mark.words text) with
  | some mark => build (.fixed mark) .absent
  | none =>
    if isDigitRun text then build .integer (.text text)
    else if text = "" ∧ emptyIsIllegal then build (.fixed (.sentinel .illegal)) .absent
    else build .identifier (.text text)

/-- The rules of a word, each with a condition of its own. The last one applies to what
construction takes as an identifier, where the empty text is not to be illegal. -/
def wordRules (emptyIsIllegal : Bool) : List (String → Option Token) :=
  [fun text => (Mark.spelled? Mark.pairs text).map .fixed,
    fun text => (Mark.spelled? Mark.words text).map .fixed,
    fun text => if isDigitRun text then some (.integer text) else none,
    fun text => if text = "" ∧ emptyIsIllegal then some .illegal else none,
    fun text => if text = "" ∧ emptyIsIllegal then none
      else (build .identifier (.text text)).toOption]

/-- The spelling of a reserved word or a pair is classified as that mark. -/
theorem ofWord_spelling {mark : Mark} (listed : mark ∈ Mark.words ++ Mark.pairs)
    (emptyIsIllegal : Bool) : ofWord emptyIsIllegal mark.spelling = .fixed mark := by
  have found : (Mark.spelled? Mark.pairs mark.spelling).or
      (Mark.spelled? Mark.words mark.spelling) = some mark := by
    rw [Mark.spelled?_spelling, Mark.spelled?_spelling]
    rcases List.mem_append.1 listed with word | pair
    · by_cases pair : mark ∈ Mark.pairs
      · rw [if_pos pair, Option.some_or]
      · rw [if_neg pair, Option.none_or, if_pos word]
    · rw [if_pos pair, Option.some_or]
  rw [ofWord, found]

/-- A run of digits is classified as an integer. -/
theorem ofWord_of_isDigitRun {text : String} (run : isDigitRun text = true)
    (emptyIsIllegal : Bool) : ofWord emptyIsIllegal text = .integer text := by
  rw [ofWord, Mark.spelled?_of_isDigitRun _ run, Mark.spelled?_of_isDigitRun _ run, Option.or_none]
  exact if_pos run

/-- A text that is not reserved is classified as an identifier, unless it is to be illegal. -/
theorem ofWord_of_not_isReserved {text : String} (free : isReserved text = false)
    (emptyIsIllegal : Bool) : ofWord emptyIsIllegal text =
      if text = "" ∧ emptyIsIllegal then .illegal else .identifier text := by
  simp only [isReserved, Bool.or_eq_false_iff, Option.isSome_eq_false_iff,
    Option.isNone_iff_eq_none] at free
  obtain ⟨⟨words, pairs⟩, digits⟩ := free
  rw [ofWord, pairs, words, Option.or_none]
  exact if_neg (by simp [digits])

/-- No check of construction refuses a classified word. -/
theorem buildWord_eq_ok (emptyIsIllegal : Bool) (text : String) :
    buildWord emptyIsIllegal text = .ok (ofWord emptyIsIllegal text) := by
  unfold buildWord ofWord
  cases wordCase text with
  | pair mark pairs words digits => simp [pairs, build]
  | keyword mark pairs words digits => simp [pairs, words, build]
  | number pairs words digits => simp [pairs, words, digits, build]
  | name pairs words digits =>
    have free : isReserved text = false := by simp [isReserved, pairs, words, digits]
    simp only [pairs, words, digits, Option.or_none, Bool.false_eq_true, ↓reduceIte]
    split
    · rfl
    · simp [build, free]

/-- Whatever `buildWord` returns is constructible, because each of its tokens is built. -/
theorem constructible_of_buildWord {emptyIsIllegal : Bool} {text : String} {token : Token}
    (built : buildWord emptyIsIllegal text = .ok token) : token.Constructible := by
  unfold buildWord at built
  split at built
  · exact ⟨_, _, built⟩
  · split at built
    · exact ⟨_, _, built⟩
    · split at built
      · exact ⟨_, _, built⟩
      · exact ⟨_, _, built⟩

/-- A classified word is constructible. -/
theorem constructible_ofWord (emptyIsIllegal : Bool) (text : String) :
    (ofWord emptyIsIllegal text).Constructible :=
  constructible_of_buildWord (buildWord_eq_ok emptyIsIllegal text)

/-- Exactly one rule applies to a word, and it gives the classified token. -/
theorem filterMap_wordRules (emptyIsIllegal : Bool) (text : String) :
    (wordRules emptyIsIllegal).filterMap (fun rule => rule text) =
      [ofWord emptyIsIllegal text] := by
  unfold wordRules ofWord
  cases wordCase text with
  | pair mark pairs words digits =>
    have filled : text ≠ "" := Mark.ne_empty_of_spelled? (.inl pairs)
    simp [pairs, words, digits, filled, isReserved, build, Except.toOption]
  | keyword mark pairs words digits =>
    have filled : text ≠ "" := Mark.ne_empty_of_spelled? (.inr words)
    simp [pairs, words, digits, filled, isReserved, build, Except.toOption]
  | number pairs words digits =>
    have filled : text ≠ "" := ne_empty_of_isDigitRun digits
    simp [pairs, words, digits, filled, isReserved, build, Except.toOption]
  | name pairs words digits =>
    -- Only here can the last two rules meet, and each excludes the other by the same condition.
    by_cases illegal : text = "" ∧ emptyIsIllegal = true
    · obtain ⟨rfl, rfl⟩ := illegal
      rfl
    · simp [pairs, words, digits, illegal, isReserved, build, Except.toOption]

/-- In whatever order the rules are tried, exactly one applies, and the first that applies gives
the classified token. -/
theorem wordRules_any_order {emptyIsIllegal : Bool} {rules : List (String → Option Token)}
    (reordered : rules.Perm (wordRules emptyIsIllegal)) (text : String) :
    rules.filterMap (fun rule => rule text) = [ofWord emptyIsIllegal text] ∧
      rules.findSome? (fun rule => rule text) = some (ofWord emptyIsIllegal text) := by
  have one : rules.filterMap (fun rule => rule text) = [ofWord emptyIsIllegal text] := by
    have found := reordered.filterMap (fun rule => rule text)
    rw [filterMap_wordRules] at found
    exact List.perm_singleton.1 found
  refine ⟨one, ?_⟩
  rw [← List.head?_filterMap, one]
  rfl

end Token

/-- The sorts of words: a reserved word or a pair, a run of digits, and any other text. -/
inductive WordSort where
  | mark
  | number
  | name
deriving DecidableEq, Repr

/-- A text is of a sort. -/
def WordSort.Holds (text : String) : WordSort → Prop
  | .mark => text ∈ (Mark.words ++ Mark.pairs).map Mark.spelling
  | .number => text ≠ "" ∧ ∀ character ∈ text.toList, character.isDigit
  | .name => text ∉ (Mark.words ++ Mark.pairs).map Mark.spelling ∧
      ¬(text ≠ "" ∧ ∀ character ∈ text.toList, character.isDigit)

/-- A text is of exactly one sort. -/
theorem WordSort.existsUnique_holds (text : String) : ∃! sort : WordSort, sort.Holds text := by
  by_cases spelled : text ∈ (Mark.words ++ Mark.pairs).map Mark.spelling
  · refine ⟨.mark, spelled, fun other holds => ?_⟩
    cases other with
    | mark => rfl
    | number =>
      have run : isDigitRun text = true := isDigitRun_iff.2 holds
      obtain ⟨mark, _, rfl⟩ := List.mem_map.1 spelled
      rw [mark.isDigitRun_spelling] at run
      contradiction
    | name => exact absurd spelled holds.1
  · by_cases run : text ≠ "" ∧ ∀ character ∈ text.toList, character.isDigit
    · refine ⟨.number, run, fun other holds => ?_⟩
      cases other with
      | mark => exact absurd holds spelled
      | number => rfl
      | name => exact absurd run holds.2
    · refine ⟨.name, ⟨spelled, run⟩, fun other holds => ?_⟩
      cases other with
      | mark => exact absurd holds spelled
      | number => exact absurd holds run
      | name => rfl

/-- A text is reserved exactly when it is a mark or a number. -/
theorem WordSort.isReserved_iff_holds {text : String} :
    isReserved text = true ↔ WordSort.mark.Holds text ∨ WordSort.number.Holds text := by
  rw [isReserved_iff, isDigitRun_iff, ← or_assoc, Holds, Holds, List.map_append, List.mem_append]

/-- The classification of words and the checks of construction follow the same rules: no classified
word is refused, each text is of one sort, which decides what both make of it, and the rules may be
tried in any order. -/
theorem word_rules_agree_with_construction (emptyIsIllegal : Bool) (text : String) :
    Token.buildWord emptyIsIllegal text = .ok (Token.ofWord emptyIsIllegal text) ∧
      (∃! sort : WordSort, sort.Holds text) ∧
      (WordSort.mark.Holds text →
        Token.build .identifier (.text text) = .error (.reserved text) ∧
        Token.build .integer (.text text) = .error (.notDigits text) ∧
        ∃ mark ∈ Mark.words ++ Mark.pairs,
          Token.ofWord emptyIsIllegal text = .fixed mark ∧ (Token.fixed mark).literal = text) ∧
      (WordSort.number.Holds text →
        Token.build .identifier (.text text) = .error (.reserved text) ∧
        Token.build .integer (.text text) = .ok (Token.ofWord emptyIsIllegal text)) ∧
      (WordSort.name.Holds text →
        Token.build .integer (.text text) = .error (.notDigits text) ∧
        Token.build .identifier (.text text) = .ok (.identifier text) ∧
        Token.ofWord emptyIsIllegal text =
          if text = "" ∧ emptyIsIllegal then .illegal else .identifier text) ∧
      ∀ rules : List (String → Option Token), rules.Perm (Token.wordRules emptyIsIllegal) →
        rules.filterMap (fun rule => rule text) = [Token.ofWord emptyIsIllegal text] ∧
        rules.findSome? (fun rule => rule text) = some (Token.ofWord emptyIsIllegal text) := by
  refine ⟨Token.buildWord_eq_ok emptyIsIllegal text, WordSort.existsUnique_holds text, ?_, ?_, ?_,
    fun rules reordered => Token.wordRules_any_order reordered text⟩
  · intro spelled
    have reserved : isReserved text = true := WordSort.isReserved_iff_holds.2 (.inl spelled)
    have identifier : Token.build .identifier (.text text) = .error (.reserved text) :=
      if_pos reserved
    obtain ⟨mark, listed, rfl⟩ := List.mem_map.1 spelled
    have integer : Token.build .integer (.text mark.spelling) =
        .error (.notDigits mark.spelling) := if_neg (by simp [mark.isDigitRun_spelling])
    have classified := Token.ofWord_spelling listed emptyIsIllegal
    exact ⟨identifier, integer, mark, listed, classified, rfl⟩
  · intro number
    have run : isDigitRun text = true := isDigitRun_iff.2 number
    have reserved : isReserved text = true := WordSort.isReserved_iff_holds.2 (.inr number)
    have identifier : Token.build .identifier (.text text) = .error (.reserved text) :=
      if_pos reserved
    have integer : Token.build .integer (.text text) = .ok (.integer text) := if_pos run
    rw [Token.ofWord_of_isDigitRun run]
    exact ⟨identifier, integer⟩
  · intro name
    have free : ¬isReserved text = true := fun reserved =>
      (WordSort.isReserved_iff_holds.1 reserved).elim name.1 name.2
    have noRun : ¬isDigitRun text = true := fun run => name.2 (isDigitRun_iff.1 run)
    have integer : Token.build .integer (.text text) = .error (.notDigits text) := if_neg noRun
    have identifier : Token.build .identifier (.text text) = .ok (.identifier text) := if_neg free
    have classified :=
      Token.ofWord_of_not_isReserved (Bool.eq_false_iff.2 free) emptyIsIllegal
    exact ⟨integer, identifier, classified⟩

/-- Each sort has a text: a reserved word, digits with a leading zero, and the empty text. -/
theorem word_rules_agree_with_construction_at_each_sort :
    Token.build .identifier (.text "let") = .error (.reserved "let") ∧
      Token.build .integer (.text "007") = .ok (Token.ofWord false "007") ∧
      Token.build .identifier (.text "") = .ok (.identifier "") ∧
      Token.ofWord true "" = .illegal := by
  have keyword : WordSort.mark.Holds "let" :=
    List.mem_map.2 ⟨.keyword .letBinding, by decide, rfl⟩
  have number : WordSort.number.Holds "007" := isDigitRun_iff.1 (by decide)
  have name : WordSort.name.Holds "" := by simp [WordSort.Holds]; decide
  have empty := (word_rules_agree_with_construction true "").2.2.2.2.1 name
  exact ⟨((word_rules_agree_with_construction false "let").2.2.1 keyword).1,
    ((word_rules_agree_with_construction false "007").2.2.2.1 number).2, empty.2.1, empty.2.2⟩

end Lexis
