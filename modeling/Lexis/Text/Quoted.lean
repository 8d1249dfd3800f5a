/-!
# Quoted text

A text is shown between two equal marks, so that its ends and every character that would not be
seen are visible. The mark is the apostrophe; a text that holds an apostrophe and no quotation
mark is put between quotation marks instead. Inside, the mark and the backslash follow a
backslash, tab, line feed and carriage return have letters of their own, and the other controls of
ASCII are written by their number. Which characters from U+0080 on are written by their number is
a parameter, because it depends on a table of characters and the rest of the format does not.
-/

namespace Lexis.Text

/-- The mark around a text. -/
def enclosingMark (characters : List Char) : Char :=
  if '\x27' ∈ characters ∧ '"' ∉ characters then '"' else '\x27'

/-- The last digits of a number in lower-case hexadecimal, as many as asked for. -/
def hexDigits : Nat → Nat → List Char
  | 0, _ => []
  | width + 1, number => hexDigits width (number / 16) ++ [Nat.digitChar (number % 16)]

/-- A character written by its number, in two, four or eight digits. -/
def numbered (character : Char) : List Char :=
  if character.toNat < 0x100 then '\\' :: 'x' :: hexDigits 2 character.toNat
  else if character.toNat < 0x10000 then '\\' :: 'u' :: hexDigits 4 character.toNat
  else '\\' :: 'U' :: hexDigits 8 character.toNat

/-- A character as it stands between two marks. -/
def escaped (unseen : Char → Bool) (mark character : Char) : List Char :=
  if character = mark ∨ character = '\\' then ['\\', character]
  else if character = '\t' then ['\\', 't']
  else if character = '\n' then ['\\', 'n']
  else if character = '\r' then ['\\', 'r']
  else if character.toNat < 0x20 ∨ character.toNat = 0x7f then numbered character
  else if 0x80 ≤ character.toNat ∧ unseen character then numbered character
  else [character]

/-- The quoted form of a text, where the characters from U+0080 on that satisfy the given
condition are written by their number. -/
def quoteWith (unseen : Char → Bool) (text : String) : String :=
  let mark := enclosingMark text.toList
  String.ofList (mark :: text.toList.flatMap (escaped unseen mark) ++ [mark])

/-- A number has as many digits as asked for. -/
theorem length_hexDigits (width number : Nat) : (hexDigits width number).length = width := by
  induction width generalizing number with
  | zero => rfl
  | succ width shorter => simp [hexDigits, shorter]

/-- The mark is one of the two. -/
theorem enclosingMark_cases (characters : List Char) :
    enclosingMark characters = '\x27' ∨ enclosingMark characters = '"' := by
  unfold enclosingMark
  split
  · exact .inr rfl
  · exact .inl rfl

end Lexis.Text
