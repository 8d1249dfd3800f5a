/-!
# Pieces and words

A text is cut at every character that separates. The pieces between the cuts keep everything else,
empty pieces included, so there is one piece more than there are cuts. The words of a text are the
pieces between blanks that are not empty: runs of blanks count as one cut, and blanks at either
end count for nothing, so a word is never empty and never holds a blank.
-/

namespace Lexis.Text

/-- Put a character in front of the first piece. -/
def extendFirst (character : Char) : List (List Char) → List (List Char)
  | [] => [[character]]
  | first :: rest => (character :: first) :: rest

/-- The pieces of a text between the characters that separate. -/
def pieces (separates : Char → Bool) (text : List Char) : List (List Char) :=
  text.foldr
    (fun character found =>
      if separates character then [] :: found else extendFirst character found)
    [[]]

/-- The twenty-nine characters that separate words. -/
def isBlank (character : Char) : Bool :=
  let code := character.toNat
  (0x09 ≤ code && code ≤ 0x0d) || (0x1c ≤ code && code ≤ 0x20) || code == 0x85 || code == 0xa0 ||
    code == 0x1680 || (0x2000 ≤ code && code ≤ 0x200a) || code == 0x2028 || code == 0x2029 ||
    code == 0x202f || code == 0x205f || code == 0x3000

/-- The words of a text, in order. -/
def words (text : List Char) : List (List Char) :=
  (pieces isBlank text).filter fun piece => !piece.isEmpty

/-- A text has at least one piece. -/
theorem pieces_ne_nil (separates : Char → Bool) (text : List Char) :
    pieces separates text ≠ [] := by
  cases text with
  | nil => simp [pieces]
  | cons character rest =>
    simp only [pieces, List.foldr_cons]
    split
    · simp
    · unfold extendFirst
      split <;> simp

/-- No character that separates is in a piece. -/
theorem separates_eq_false_of_mem_pieces {separates : Char → Bool} {text piece : List Char}
    (listed : piece ∈ pieces separates text) :
    ∀ character ∈ piece, separates character = false := by
  induction text generalizing piece with
  | nil =>
    simp only [pieces, List.foldr_nil, List.mem_singleton] at listed
    simp [listed]
  | cons first rest shorter =>
    simp only [pieces, List.foldr_cons] at listed
    change piece ∈ (if separates first then [] :: pieces separates rest
      else extendFirst first (pieces separates rest)) at listed
    split at listed
    · rcases List.mem_cons.1 listed with rfl | listed
      · simp
      · exact shorter listed
    · rename_i keeps
      cases found : pieces separates rest with
      | nil => exact absurd found (pieces_ne_nil separates rest)
      | cons head tail =>
        rw [found] at listed
        rcases List.mem_cons.1 listed with rfl | listed
        · intro character within
          rcases List.mem_cons.1 within with rfl | within
          · simpa using keeps
          · exact shorter (found ▸ List.mem_cons_self) character within
        · exact shorter (found ▸ List.mem_cons_of_mem head listed)

/-- A word is not empty and holds no blank. -/
theorem ne_nil_and_not_blank_of_mem_words {text word : List Char} (listed : word ∈ words text) :
    word ≠ [] ∧ ∀ character ∈ word, isBlank character = false := by
  obtain ⟨listed, filled⟩ := List.mem_filter.1 listed
  exact ⟨by simpa using filled, separates_eq_false_of_mem_pieces listed⟩

end Lexis.Text
