/-!
# Control sequences of terminals

A control sequence is the escape character U+001B and a left bracket, then any number of
parameters (0 to ?), then any number of intermediates (space to /), then one final character
(@ to ~). The three classes are disjoint and none holds the escape character, so whether a
sequence starts at a place is decided without looking back, and what follows an unfinished one can
be read anew. `strip` removes the sequences from left to right; one that only comes about by a
removal stays.
-/

namespace Lexis.Text.ControlSequence

/-- The escape character. -/
def escape : Char := '\x1b'

/-- Parameters stand first. -/
def isParameter (character : Char) : Bool := '0' ≤ character && character ≤ '?'

/-- Intermediates stand after the parameters. -/
def isIntermediate (character : Char) : Bool := ' ' ≤ character && character ≤ '/'

/-- A final character ends the sequence. -/
def isFinal (character : Char) : Bool := '@' ≤ character && character ≤ '~'

/-- The number of characters up to and with the final one, or nothing where there is none. -/
def finalLength? : List Char → Option Nat
  | [] => none
  | character :: _ => if isFinal character then some 1 else none

/-- The number of characters from the intermediates on. -/
def intermediateLength? : List Char → Option Nat
  | [] => none
  | character :: rest =>
    if isIntermediate character then (intermediateLength? rest).map (· + 1)
    else finalLength? (character :: rest)

/-- The number of characters from the parameters on. -/
def parameterLength? : List Char → Option Nat
  | [] => none
  | character :: rest =>
    if isParameter character then (parameterLength? rest).map (· + 1)
    else intermediateLength? (character :: rest)

/-- The number of characters after the escape character, where it starts a sequence. -/
def lengthAfterEscape? : List Char → Option Nat
  | '[' :: rest => (parameterLength? rest).map (· + 1)
  | _ => none

/-- The text without its sequences, after passing over so many characters of one. -/
def stripAfter : Nat → List Char → List Char
  | _, [] => []
  | skipped + 1, _ :: rest => stripAfter skipped rest
  | 0, character :: rest =>
    if character = escape then
      match lengthAfterEscape? rest with
      | some length => stripAfter length rest
      | none => character :: stripAfter 0 rest
    else character :: stripAfter 0 rest

/-- The text without its control sequences. -/
def strip (text : String) : String := String.ofList (stripAfter 0 text.toList)

/-- A text in front that holds no escape character stays as it is. -/
theorem stripAfter_append {front : List Char} (plain : escape ∉ front) (rest : List Char) :
    stripAfter 0 (front ++ rest) = front ++ stripAfter 0 rest := by
  induction front with
  | nil => rfl
  | cons character front shorter =>
    obtain ⟨other, plain⟩ := not_or.1 (mt List.mem_cons.2 plain)
    rw [List.cons_append, stripAfter, if_neg (Ne.symm other), shorter plain, List.cons_append]

/-- A text without an escape character stays as it is. -/
theorem strip_of_not_mem {text : String} (plain : escape ∉ text.toList) : strip text = text := by
  have kept := stripAfter_append plain []
  rw [List.append_nil, stripAfter, List.append_nil] at kept
  rw [strip, kept, String.ofList_toList]

end Lexis.Text.ControlSequence
