/-!
# Similar texts

How alike two texts are is measured by what they have in common in the same order: the longest
block that both hold, the earliest one in the first text and then in the second, and in the same
way what is common on its left and on its right. Similarity is twice the number of characters in
common over the number of all characters; texts are similar from six tenths on. The measure is a
fraction and is compared as one, so nothing is rounded.
-/

namespace Lexis.Text.Similarity

/-- The length of the common start of two texts. -/
def commonStart : List Char → List Char → Nat
  | first :: left, second :: right => if first = second then commonStart left right + 1 else 0
  | _, _ => 0

/-- A block of characters that two texts hold. -/
structure Block where
  /-- Where it starts in the first text. -/
  left : Nat
  /-- Where it starts in the second text. -/
  right : Nat
  /-- How long it is. -/
  length : Nat
deriving DecidableEq, Repr

/-- The longer of two blocks, the first one where they are equally long. -/
def Block.orLonger (found candidate : Block) : Block :=
  if found.length < candidate.length then candidate else found

/-- The longest block that starts at one place of the first text, or the one found before. -/
def longestAt (place : Nat) (left : List Char) : Nat → List Char → Block → Block
  | _, [], found => found
  | start, character :: rest, found =>
    longestAt place left (start + 1) rest
      (found.orLonger ⟨place, start, commonStart left (character :: rest)⟩)

/-- The longest block that starts from one place of the first text on, or the one found before. -/
def longestFrom (right : List Char) : Nat → List Char → Block → Block
  | _, [], found => found
  | place, character :: rest, found =>
    longestFrom right (place + 1) rest (longestAt place (character :: rest) 0 right found)

/-- The longest block of two texts. -/
def longestBlock (left right : List Char) : Block := longestFrom right 0 left ⟨0, 0, 0⟩

/-- The number of characters in common, where blocks are looked for so many levels deep. -/
def commonWithin : Nat → List Char → List Char → Nat
  | 0, _, _ => 0
  | depth + 1, left, right =>
    let block := longestBlock left right
    if block.length = 0 then 0
    else
      commonWithin depth (left.take block.left) (right.take block.right) + block.length +
        commonWithin depth (left.drop (block.left + block.length))
          (right.drop (block.right + block.length))

/-- The number of characters that two texts have in common. Each level takes at least one character
out of the first text, so there are no more levels than characters. -/
def common (left right : List Char) : Nat := commonWithin left.length left right

/-- A text with what it has in common with another one. -/
structure Candidate where
  /-- The text. -/
  text : String
  /-- The number of characters in common. -/
  common : Nat
  /-- The number of characters of both texts. -/
  total : Nat
deriving DecidableEq, Repr

/-- Compare a text with another one. -/
def Candidate.of (text other : String) : Candidate :=
  ⟨text, Similarity.common text.toList other.toList, text.length + other.length⟩

/-- The texts are similar: twice the common part is at least six tenths of the whole. -/
def Candidate.isSimilar (candidate : Candidate) : Bool :=
  3 * candidate.total ≤ 10 * candidate.common

/-- The first candidate comes before the second: it is more similar, or as similar and not the
lesser text. -/
def Candidate.isBefore (first second : Candidate) : Bool :=
  if first.common * second.total = second.common * first.total then
    second.text ≤ first.text
  else second.common * first.total < first.common * second.total

/-- The most similar texts to another one, at most three, in the order of texts. -/
def closest (texts : List String) (other : String) : List String :=
  let similar := (texts.map fun text => Candidate.of text other).filter Candidate.isSimilar
  let best := (similar.mergeSort Candidate.isBefore).take 3
  (best.map Candidate.text).mergeSort fun first second => first ≤ second

end Lexis.Text.Similarity
