import Lexis.Text.Pieces
import Lexis.Text.Unseen

/-!
# Line breaks

A text is cut into lines at ten characters, of which the line feed is only one, and a carriage
return in front of a line feed is one break with it. What is quoted has none of them, because each
is written by a letter or by its number (`Text.isOneLine_quote`). So a text that is put together
from plain words and quoted texts is one line, whatever the quoted texts hold.
-/

namespace Lexis.Text

/-- The characters that end a line. -/
def lineBreaks : List Char :=
  ['\n', '\x0b', '\x0c', '\r', '\x1c', '\x1d', '\x1e', '\u0085', '\u2028', '\u2029']

def isLineBreak (character : Char) : Bool := lineBreaks.contains character

/-- The lines of a text without their ends. Nothing stands behind the last end, and a carriage
return in front of a line feed belongs to it. -/
def splitLines : List Char → List (List Char)
  | [] => []
  | character :: rest =>
    if character = '\r' ∧ rest.head? = some '\n' then splitLines rest
    else if isLineBreak character then [] :: splitLines rest
    else extendFirst character (splitLines rest)

/-- No character of the text ends a line. -/
def IsOneLine (text : List Char) : Prop := ∀ character ∈ text, isLineBreak character = false

instance (text : List Char) : Decidable (IsOneLine text) := List.decidableBAll _ _

theorem isOneLine_append_iff {front rest : List Char} :
    IsOneLine (front ++ rest) ↔ IsOneLine front ∧ IsOneLine rest :=
  List.forall_mem_append

/-- A character that ends no line stands at the start of the first one. -/
theorem splitLines_cons {character : Char} (kept : isLineBreak character = false)
    (rest : List Char) :
    splitLines (character :: rest) = extendFirst character (splitLines rest) := by
  have notReturn : ¬(character = '\r' ∧ rest.head? = some '\n') := by
    rintro ⟨rfl, _⟩
    contradiction
  rw [splitLines, if_neg notReturn, if_neg (by simp [kept])]

/-- A text without line breaks is its only line, unless it is empty. -/
theorem splitLines_of_isOneLine {text : List Char} (one : IsOneLine text) (filled : text ≠ []) :
    splitLines text = [text] := by
  induction text with
  | nil => contradiction
  | cons character rest ih =>
    obtain ⟨first, later⟩ := List.forall_mem_cons.1 one
    rw [splitLines_cons first]
    by_cases last : rest = []
    · subst last
      rfl
    · rw [ih later last]
      rfl

/-- A text without line breaks in front of a line feed is the first line. -/
theorem splitLines_append {front : List Char} (one : IsOneLine front) (rest : List Char) :
    splitLines (front ++ '\n' :: rest) = front :: splitLines rest := by
  induction front with
  | nil =>
    have feed : isLineBreak '\n' = true := by decide
    rw [List.nil_append, splitLines, if_neg (by simp), if_pos feed]
  | cons character front ih =>
    obtain ⟨first, later⟩ := List.forall_mem_cons.1 one
    rw [List.cons_append, splitLines_cons first, ih later]
    rfl

/-- A carriage return in front of a line feed is one break with it, and a vertical tabulation is one of its
own. -/
example : splitLines "a\r\nb\x0b\nc\n".toList = ["a".toList, "b".toList, [], "c".toList] := by
  decide

/-- The line breaks are the line feed, the carriage return, other controls of ASCII, and three
characters that are not seen. -/
theorem lineBreak_cases {character : Char} (ends : isLineBreak character = true) :
    character = '\n' ∨ character = '\r' ∨ character.toNat < 0x20 ∨
      0x80 ≤ character.toNat ∧ isUnseen character = true := by
  have listed : character ∈ lineBreaks := List.contains_iff_mem.1 ends
  have sorts : lineBreaks.all fun member => decide (member = '\n' ∨ member = '\r' ∨
      member.toNat < 0x20 ∨ 0x80 ≤ member.toNat ∧ isUnseen member = true) := by decide +kernel
  exact of_decide_eq_true (List.all_eq_true.1 sorts character listed)

theorem isOneLine_hexDigits (width number : Nat) : IsOneLine (hexDigits width number) := by
  have digits : ∀ digit < 16, isLineBreak (Nat.digitChar digit) = false := by decide
  induction width generalizing number with
  | zero => exact List.forall_mem_nil _
  | succ width ih =>
    refine isOneLine_append_iff.2 ⟨ih (number / 16), ?_⟩
    exact List.forall_mem_singleton.2 (digits _ (Nat.mod_lt _ (by decide)))

theorem isOneLine_numbered (character : Char) : IsOneLine (numbered character) := by
  have frame (letter : Char) (plain : isLineBreak letter = false) (width : Nat) :
      IsOneLine ('\\' :: letter :: hexDigits width character.toNat) :=
    List.forall_mem_cons.2
      ⟨by decide, List.forall_mem_cons.2 ⟨plain, isOneLine_hexDigits width character.toNat⟩⟩
  unfold numbered
  split
  · exact frame 'x' (by decide) 2
  split
  · exact frame 'u' (by decide) 4
  · exact frame 'U' (by decide) 8

/-- What is written of a character between two marks has no line break. -/
theorem isOneLine_escaped {mark : Char} (encloses : mark = '\x27' ∨ mark = '"')
    (character : Char) : IsOneLine (escaped isUnseen mark character) := by
  unfold escaped
  split
  case isTrue marked =>
    rcases marked with rfl | rfl
    · rcases encloses with rfl | rfl <;> decide
    · decide
  case isFalse =>
    split
    · decide
    split
    · decide
    split
    · decide
    split
    · exact isOneLine_numbered character
    split
    · exact isOneLine_numbered character
    -- Only here is the character written as it stands, and the cases above have caught the breaks.
    · rename_i noFeed noReturn noControl seen
      refine List.forall_mem_singleton.2 (Bool.eq_false_iff.2 fun ends => ?_)
      rcases lineBreak_cases ends with feed | carriage | control | unseen
      · exact noFeed feed
      · exact noReturn carriage
      · exact noControl (.inl control)
      · exact seen unseen

/-- A quoted text has no line break. -/
theorem isOneLine_quote (text : String) : IsOneLine (quote text).toList := by
  have encloses := enclosingMark_cases text.toList
  have plain : isLineBreak (enclosingMark text.toList) = false := by
    rcases encloses with mark | mark <;> rw [mark] <;> decide
  have body : IsOneLine
      (text.toList.flatMap (escaped isUnseen (enclosingMark text.toList))) := by
    intro character within
    obtain ⟨original, _, written⟩ := List.mem_flatMap.1 within
    exact isOneLine_escaped encloses original character written
  rw [quote, quoteWith, String.toList_ofList, List.cons_append]
  refine List.forall_mem_cons.2 ⟨plain, isOneLine_append_iff.2 ⟨body, ?_⟩⟩
  exact List.forall_mem_singleton.2 plain

end Lexis.Text
