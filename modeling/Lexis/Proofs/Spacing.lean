import Lexis.Text.Pieces

/-!
# Texts with given words

A text is laid out from words when they stand in it in order, with blanks between each two of them
and any blanks at either end (`Spaced`). How many blanks there are and which ones is lost when the
words are read, and nothing else is: the words of such a text are those it was laid out from
(`words_of_spaced`). What is empty leaves no trace among the blanks around it
(`words_of_spaced_of_plain`). A text may be cut where a blank stands, and its words are those of
both parts.
-/

namespace Lexis.Text

/-- Blanks and nothing else. -/
def IsGap (text : List Char) : Prop := ∀ character ∈ text, isBlank character = true

instance (text : List Char) : Decidable (IsGap text) := List.decidableBAll _ _

/-- A text that words can be read from again: not empty and without blanks. -/
def IsWord (text : String) : Prop :=
  text ≠ "" ∧ ∀ character ∈ text.toList, isBlank character = false

instance (text : String) : Decidable (IsWord text) :=
  @instDecidableAnd _ _ _ (List.decidableBAll _ _)

/-- The words stand in the text in order, apart from each other, with any blanks at either end. -/
inductive Spaced : List String → List Char → Prop where
  | none {gap : List Char} (blank : IsGap gap) : Spaced [] gap
  | word {before gap rest : List Char} {first : String} {later : List String}
      (leading : IsGap before) (trailing : IsGap gap) (apart : later ≠ [] → gap ≠ [])
      (spaced : Spaced later rest) : Spaced (first :: later) (before ++ first.toList ++ gap ++ rest)

/-- A character in front of some pieces goes to the first of them. -/
theorem extendFirst_append {found : List (List Char)} (some : found ≠ []) (character : Char)
    (more : List (List Char)) :
    extendFirst character (found ++ more) = extendFirst character found ++ more := by
  cases found with
  | nil => contradiction
  | cons first rest => rfl

/-- A text that is cut at a separator has the pieces of both parts. -/
theorem pieces_append_cons {separates : Char → Bool} {cut : Char} (separator : separates cut = true)
    (front rest : List Char) :
    pieces separates (front ++ cut :: rest) = pieces separates front ++ pieces separates rest := by
  induction front with
  | nil => simp [pieces, separator]
  | cons character front ih =>
    change (if separates character then [] :: pieces separates (front ++ cut :: rest)
      else extendFirst character (pieces separates (front ++ cut :: rest))) =
      (if separates character then [] :: pieces separates front
        else extendFirst character (pieces separates front)) ++ pieces separates rest
    rw [ih]
    split
    · rfl
    · exact extendFirst_append (pieces_ne_nil separates front) character _

/-- A text without separators is one piece. -/
theorem pieces_of_forall {separates : Char → Bool} {text : List Char}
    (whole : ∀ character ∈ text, separates character = false) :
    pieces separates text = [text] := by
  induction text with
  | nil => rfl
  | cons character text ih =>
    obtain ⟨first, rest⟩ := List.forall_mem_cons.1 whole
    change (if separates character then _ else extendFirst character (pieces separates text)) = _
    rw [ih rest, if_neg (by simp [first]), extendFirst]

/-- A blank at the start belongs to no word. -/
theorem words_cons {cut : Char} (blank : isBlank cut = true) (rest : List Char) :
    words (cut :: rest) = words rest := by
  have cutAtStart : pieces isBlank (cut :: rest) = [] :: pieces isBlank rest :=
    pieces_append_cons blank [] rest
  rw [words, cutAtStart]
  rfl

/-- A text that is cut at its end or in front of a blank has the words of both parts. -/
theorem words_append {rest : List Char}
    (starts : ∀ character ∈ rest.head?, isBlank character = true) (front : List Char) :
    words (front ++ rest) = words front ++ words rest := by
  cases rest with
  | nil => rw [List.append_nil, show words [] = [] from rfl, List.append_nil]
  | cons cut rest =>
    have blank : isBlank cut = true := starts cut rfl
    rw [words_cons blank, words, pieces_append_cons blank, List.filter_append]
    rfl

/-- Blanks at the start belong to no word. -/
theorem words_append_of_isGap {gap : List Char} (blank : IsGap gap) (rest : List Char) :
    words (gap ++ rest) = words rest := by
  induction gap with
  | nil => rfl
  | cons character gap ih =>
    obtain ⟨first, later⟩ := List.forall_mem_cons.1 blank
    rw [List.cons_append, words_cons first, ih later]

/-- A text without blanks is its only word, unless it is empty. -/
theorem words_of_plain {word : String} (plain : ∀ character ∈ word.toList, isBlank character = false) :
    (words word.toList).map String.ofList = [word].filter (· != "") := by
  rw [words, pieces_of_forall plain]
  by_cases empty : word = ""
  · subst empty
    rfl
  · simp [empty]

/-- The words of a text that is laid out from texts without blanks are those texts, in order, except
for the empty ones. -/
theorem words_of_spaced_of_plain {listed : List String} {text : List Char}
    (spaced : Spaced listed text)
    (plain : ∀ word ∈ listed, ∀ character ∈ word.toList, isBlank character = false) :
    (words text).map String.ofList = listed.filter (· != "") := by
  induction spaced with
  | @none gap blank =>
    have nothing := words_append_of_isGap blank []
    rw [List.append_nil] at nothing
    rw [nothing]
    rfl
  | @word before gap rest first later leading trailing apart spaced ih =>
    obtain ⟨firstPlain, laterPlain⟩ := List.forall_mem_cons.1 plain
    -- Only behind the last word may there be no gap, and then the rest is blank altogether.
    have starts : ∀ character ∈ (gap ++ rest).head?, isBlank character = true := by
      intro character head
      cases gap with
      | cons blank gap =>
        obtain rfl := Option.some.inj head
        exact trailing blank List.mem_cons_self
      | nil =>
        cases spaced with
        | none blank => exact blank character (List.mem_of_head? head)
        | word => exact absurd rfl (apart (List.cons_ne_nil _ _))
    have cut : first :: later = [first] ++ later := rfl
    rw [List.append_assoc, List.append_assoc, words_append_of_isGap leading, words_append starts,
      words_append_of_isGap trailing, List.map_append, words_of_plain firstPlain, ih laterPlain,
      cut, List.filter_append]

/-- The words of a text that is laid out from words are those words, in order. -/
theorem words_of_spaced {listed : List String} {text : List Char} (spaced : Spaced listed text)
    (whole : ∀ word ∈ listed, IsWord word) : (words text).map String.ofList = listed := by
  rw [words_of_spaced_of_plain spaced fun word member => (whole word member).2, List.filter_eq_self]
  intro word member
  simpa using (whole word member).1

end Lexis.Text
