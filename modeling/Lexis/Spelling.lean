import Lexis.Kind

/-!
# Spellings

Every mark has one spelling, and no two marks share one (`Mark.spelling_injective`), so a mark is
found again by its spelling. The marks are looked up in three groups: symbols, which are spelled
with a single character (the end of the input is the character U+0000), pairs, which are spelled
with two, and reserved words. A character is part of a word when it is an ASCII letter or digit or
the low line.
-/

namespace Lexis

/-- The text of a sentinel: an illegal symbol has none, and the end of the input is U+0000. -/
def Sentinel.spelling : Sentinel → String
  | .illegal => ""
  | .eof => "\x00"

/-- The text of an operator. -/
def Operator.spelling : Operator → String
  | .assign => "="
  | .plus => "+"
  | .minus => "-"
  | .bang => "!"
  | .asterisk => "*"
  | .slash => "/"
  | .lessThan => "<"
  | .greaterThan => ">"
  | .equal => "=="
  | .notEqual => "!="

/-- The text of a delimiter. -/
def Delimiter.spelling : Delimiter → String
  | .comma => ","
  | .semicolon => ";"
  | .leftParen => "("
  | .rightParen => ")"
  | .leftBrace => "\x7b"
  | .rightBrace => "\x7d"

/-- The text of a reserved word. -/
def Keyword.spelling : Keyword → String
  | .function => "fn"
  | .letBinding => "let"
  | .trueLiteral => "true"
  | .falseLiteral => "false"
  | .ifBranch => "if"
  | .elseBranch => "else"
  | .returnValue => "return"

namespace Mark

/-- The text of a mark. -/
def spelling : Mark → String
  | .sentinel member => member.spelling
  | .operator member => member.spelling
  | .delimiter member => member.spelling
  | .keyword member => member.spelling

/-- The marks spelled with a single character. -/
def symbols : List Mark :=
  [.operator .assign, .delimiter .semicolon, .delimiter .leftParen, .delimiter .rightParen,
    .delimiter .comma, .operator .plus, .operator .minus, .operator .bang, .operator .asterisk,
    .operator .slash, .operator .lessThan, .operator .greaterThan, .delimiter .leftBrace,
    .delimiter .rightBrace, .sentinel .eof]

/-- The marks spelled with two characters that are not part of a word. -/
def pairs : List Mark := [.operator .equal, .operator .notEqual]

/-- The marks that are reserved words. -/
def words : List Mark := Keyword.all.map .keyword

/-- The mark of a list that has a spelling, if there is one. -/
def spelled? (marks : List Mark) (text : String) : Option Mark :=
  marks.find? (fun mark => mark.spelling == text)

/-- A spelling determines its mark. -/
theorem spelling_injective (left right : Mark) (same : left.spelling = right.spelling) :
    left = right := by
  have distinct : ∀ first ∈ all, ∀ second ∈ all,
      first.spelling = second.spelling → first = second := by decide
  exact distinct left left.mem_all right right.mem_all same

/-- A mark is found in a list by a text exactly when it is listed and spelled so. -/
theorem spelled?_eq_some_iff {marks : List Mark} {text : String} {mark : Mark} :
    spelled? marks text = some mark ↔ mark ∈ marks ∧ mark.spelling = text := by
  constructor
  · intro found
    exact ⟨List.mem_of_find?_eq_some found, by simpa using List.find?_some found⟩
  · rintro ⟨listed, rfl⟩
    cases found : spelled? marks mark.spelling with
    | none =>
      have absent := List.find?_eq_none.1 found mark listed
      simp at absent
    | some other =>
      have same : other.spelling = mark.spelling := by simpa using List.find?_some found
      rw [spelling_injective other mark same]

/-- No mark of a list is found by a text exactly when none is spelled so. -/
theorem spelled?_eq_none_iff {marks : List Mark} {text : String} :
    spelled? marks text = none ↔ ∀ mark ∈ marks, mark.spelling ≠ text := by
  simp [spelled?]

/-- Some mark of a list is found by a text exactly when the text is one of the spellings. -/
theorem isSome_spelled?_iff {marks : List Mark} {text : String} :
    (spelled? marks text).isSome = true ↔ text ∈ marks.map spelling := by
  simp [spelled?]

/-- By the spelling of a mark that mark is found, or none where it is not listed. -/
theorem spelled?_spelling (marks : List Mark) (mark : Mark) :
    spelled? marks mark.spelling = if mark ∈ marks then some mark else none := by
  split
  · rename_i listed
    exact spelled?_eq_some_iff.2 ⟨listed, rfl⟩
  · rename_i unlisted
    refine spelled?_eq_none_iff.2 fun other listed same => unlisted ?_
    rw [← spelling_injective other mark same]
    exact listed

end Mark

/-- Letters, digits and the low line, of ASCII alone, make up words. -/
def isWordCharacter (character : Char) : Bool :=
  character.isAlphanum || character == '_'

/-- A run of decimal digits has at least one digit and nothing else; only 0 to 9 count. -/
def isDigitRun (text : String) : Bool :=
  !text.toList.isEmpty && text.toList.all Char.isDigit

/-- A run of digits is a text that is not empty and whose characters are all digits. -/
theorem isDigitRun_iff {text : String} :
    isDigitRun text = true ↔ text ≠ "" ∧ ∀ character ∈ text.toList, character.isDigit := by
  simp [isDigitRun]

end Lexis
