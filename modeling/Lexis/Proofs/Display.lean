import Lexis.Session
import Mathlib.Algebra.Group.Nat.Defs
import Mathlib.Data.List.Nodup

/-!
# Displays

A display is read from its front. What is written of one character between the marks can be told
from whatever stands behind it (`Text.meant_escaped`), so a quoted text ends at the first mark that
stands for itself, and a token ends where its name does or with its quoted text. A format with that
property (`Text.SelfDelimiting`) keeps it where values are written one after another up to a
character that none of them starts with, so a list is determined by its display although commas,
parentheses and marks may stand in the texts. Nothing here depends on which characters from
U+0080 on are written by their number.
-/

namespace Lexis

namespace Text

/-- What is written first in a text determines its value, whatever is written behind it. -/
def SelfDelimiting {α : Type} (write : α → List Char) : Prop :=
  ∀ left right first second, write left ++ first = write right ++ second → left = right

namespace SelfDelimiting

variable {α : Type} {write : α → List Char}

/-- A format is self-delimiting if its values can be read from the front of a text. -/
theorem of_read {read : List Char → Option α}
    (reads : ∀ value rest, read (write value ++ rest) = some value) : SelfDelimiting write := by
  intro left right first second same
  have found := congrArg read same
  rwa [reads, reads, Option.some.injEq] at found

theorem injective (delimited : SelfDelimiting write) : Function.Injective write :=
  fun left right same => delimited left right [] [] (congrArg (· ++ []) same)

/-- The same text in front of every value changes nothing. -/
theorem prepend (delimited : SelfDelimiting write) (front : List Char) :
    SelfDelimiting fun value => front ++ write value := by
  intro left right first second same
  simp only [List.append_assoc] at same
  exact delimited left right first second (List.append_cancel_left same)

/-- Values that are written one after another end at a character with which none of them starts. -/
theorem sequence (delimited : SelfDelimiting write) {stop : Char}
    (apart : ∀ value first second, write value ++ first ≠ stop :: second) :
    SelfDelimiting fun values : List α => values.flatMap write ++ [stop] := by
  intro left
  induction left with
  | nil =>
    rintro (_ | ⟨value, values⟩) first second same
    · rfl
    · simp only [List.flatMap_nil, List.flatMap_cons, List.append_assoc] at same
      exact absurd same.symm (apart value _ _)
  | cons value values ih =>
    rintro (_ | ⟨other, others⟩) first second same
    · simp only [List.flatMap_nil, List.flatMap_cons, List.append_assoc] at same
      exact absurd same (apart value _ _)
    · simp only [List.flatMap_cons, List.append_assoc] at same
      obtain rfl := delimited value other _ _ same
      have rest := List.append_cancel_left same
      rw [ih others first second (by simpa only [List.append_assoc] using rest)]

end SelfDelimiting

/-- In texts that are joined, every one but the first has the separator before it. -/
theorem intercalate_cons (separator first : List Char) (texts : List (List Char)) :
    separator.intercalate (first :: texts) = first ++ texts.flatMap (separator ++ ·) := by
  induction texts generalizing first with
  | nil => simp
  | cons next texts ih =>
    rw [List.intercalate_cons_cons, ih, List.flatMap_cons, List.append_assoc, List.append_assoc]

/-- The value of a digit in lower-case hexadecimal. -/
def digitValue (digit : Char) : Nat :=
  if digit ≤ '9' then digit.toNat - '0'.toNat else digit.toNat - 'a'.toNat + 10

/-- The number that some digits in lower-case hexadecimal stand for. -/
def numberOf (digits : List Char) : Nat :=
  digits.foldl (fun number digit => 16 * number + digitValue digit) 0

/-- A number is read back from its digits if there are enough of them. -/
theorem numberOf_hexDigits {width number : Nat} (fits : number < 16 ^ width) :
    numberOf (hexDigits width number) = number := by
  have value : ∀ digit < 16, digitValue (Nat.digitChar digit) = digit := by decide
  induction width generalizing number with
  | zero => exact (Nat.lt_one_iff.1 fits).symm
  | succ width ih =>
    have front : numberOf (hexDigits width (number / 16)) = number / 16 := ih (by omega)
    unfold numberOf at front ⊢
    rw [hexDigits, List.foldl_append, front, List.foldl_cons, List.foldl_nil,
      value _ (Nat.mod_lt _ (by decide))]
    omega

/-- How many digits follow a letter behind a backslash. -/
def digitCount : Char → Nat
  | 'x' => 2
  | 'u' => 4
  | 'U' => 8
  | _ => 0

/-- The character that a letter behind a backslash stands for if no digits follow. -/
def shortMeaning : Char → Char
  | 't' => '\t'
  | 'n' => '\n'
  | 'r' => '\r'
  | character => character

/-- The character that the front of a text between marks stands for. -/
def meant : List Char → Option Char
  | [] => none
  | character :: rest =>
    if character ≠ '\\' then some character
    else
      match rest with
      | [] => none
      | letter :: digits =>
        if digitCount letter = 0 then some (shortMeaning letter)
        else some (Char.ofNat (numberOf (digits.take (digitCount letter))))

theorem meant_plain {character : Char} (plain : character ≠ '\\') (rest : List Char) :
    meant (character :: rest) = some character := by
  simp [meant, plain]

theorem meant_short {letter : Char} (short : digitCount letter = 0) (rest : List Char) :
    meant ('\\' :: letter :: rest) = some (shortMeaning letter) := by
  simp [meant, short]

theorem meant_of_digits (letter : Char) {character : Char} (long : digitCount letter ≠ 0)
    (fits : character.toNat < 16 ^ digitCount letter) (rest : List Char) :
    meant ('\\' :: letter :: (hexDigits (digitCount letter) character.toNat ++ rest)) =
      some character := by
  have taken : (hexDigits (digitCount letter) character.toNat ++ rest).take (digitCount letter) =
      hexDigits (digitCount letter) character.toNat :=
    List.take_left' (length_hexDigits _ _)
  simp [meant, long, taken, numberOf_hexDigits fits]

/-- A character is read back from its number. -/
theorem meant_numbered (character : Char) (rest : List Char) :
    meant (numbered character ++ rest) = some character := by
  unfold numbered
  split
  · exact meant_of_digits 'x' (by decide) ‹_› rest
  split
  · exact meant_of_digits 'u' (by decide) ‹_› rest
  · refine meant_of_digits 'U' (by decide) ?_ rest
    have valid : character.toNat < 0xd800 ∨ 0xdfff < character.toNat ∧ character.toNat < 0x110000 :=
      character.valid
    have enough : 0x110000 ≤ 16 ^ digitCount 'U' := by decide
    omega

/-- A character is read back from what is written of it between two marks. -/
theorem meant_escaped (unseen : Char → Bool) {mark : Char} (encloses : mark = '\x27' ∨ mark = '"')
    (character : Char) (rest : List Char) :
    meant (escaped unseen mark character ++ rest) = some character := by
  unfold escaped
  split
  case isTrue marked =>
    obtain ⟨short, itself⟩ : digitCount character = 0 ∧ shortMeaning character = character := by
      rcases encloses with rfl | rfl <;> rcases marked with rfl | rfl <;> exact ⟨rfl, rfl⟩
    exact (meant_short short rest).trans (congrArg some itself)
  case isFalse unmarked =>
    split
    · subst character
      exact meant_short rfl rest
    split
    · subst character
      exact meant_short rfl rest
    split
    · subst character
      exact meant_short rfl rest
    split
    · exact meant_numbered character rest
    split
    · exact meant_numbered character rest
    · exact meant_plain (fun escapes => unmarked (.inr escapes)) rest

/-- Nothing that is written between two marks starts with the mark. -/
theorem escaped_append_ne_mark (unseen : Char → Bool) {mark : Char}
    (encloses : mark = '\x27' ∨ mark = '"') (character : Char) (first second : List Char) :
    escaped unseen mark character ++ first ≠ mark :: second := by
  intro same
  have itself : mark ≠ '\\' := by rcases encloses with rfl | rfl <;> decide
  have read := meant_escaped unseen encloses character first
  rw [same, meant_plain itself] at read
  obtain rfl := Option.some.inj read
  rw [escaped, if_pos (.inl rfl)] at same
  exact itself (List.cons.inj same).1.symm

/-- A quoted text determines the text, whatever stands behind it. -/
theorem selfDelimiting_quoteWith (unseen : Char → Bool) :
    SelfDelimiting fun text => (quoteWith unseen text).toList := by
  intro left right first second same
  have encloses := enclosingMark_cases left.toList
  simp only [quoteWith, String.toList_ofList, List.cons_append] at same
  obtain ⟨marks, bodies⟩ := List.cons.inj same
  rw [← marks] at bodies
  have characters := (SelfDelimiting.of_read (meant_escaped unseen encloses)).sequence
    (escaped_append_ne_mark unseen encloses)
  exact String.toList_inj.1 (characters left.toList right.toList first second bodies)

end Text

namespace Kind

/-- A name is a word: it holds no comma and no parenthesis. -/
theorem isWordCharacter_of_mem_name (kind : Kind) :
    ∀ character ∈ kind.name.toList, isWordCharacter character = true := by
  have spelled : ∀ kind : Kind, kind.name.toList.all isWordCharacter = true :=
    forall_iff_all.2 (by decide)
  exact List.all_eq_true.1 (spelled kind)

/-- A name determines its kind. -/
theorem name_injective {left right : Kind} (same : left.name = right.name) : left = right := by
  have found := congrArg named same
  rw [named_name, named_name] at found
  exact Except.ok.inj found

end Kind

namespace Token

/-- The display of a token from the end of the name on. -/
def afterName (unseen : Char → Bool) (token : Token) : List Char :=
  match token.text? with
  | none => [')']
  | some text => ',' :: ' ' :: ((Text.quoteWith unseen text).toList ++ [')'])

theorem displayWith_toList (unseen : Char → Bool) (token : Token) :
    (token.displayWith unseen).toList =
      "Token(".toList ++ (token.kind.name.toList ++ token.afterName unseen) := by
  cases token <;> simp [displayWith, afterName, text?]

/-- The name of a token ends at the first character that is not part of a word. -/
theorem takeWhile_name (unseen : Char → Bool) (token : Token) (rest : List Char) :
    (token.kind.name.toList ++ (token.afterName unseen ++ rest)).takeWhile isWordCharacter =
      token.kind.name.toList := by
  have ended : (token.afterName unseen ++ rest).takeWhile isWordCharacter = [] := by
    cases token <;> rfl
  rw [List.takeWhile_append_of_pos token.kind.isWordCharacter_of_mem_name, ended, List.append_nil]

/-- What stands behind the name determines the text, if there is one. -/
theorem text?_eq_of_afterName {unseen : Char → Bool} {left right : Token} {first second : List Char}
    (same : left.afterName unseen ++ first = right.afterName unseen ++ second) :
    left.text? = right.text? := by
  unfold afterName at same
  split at same
  case h_1 none =>
    split at same
    case h_1 absent => rw [none, absent]
    case h_2 => cases same
  case h_2 text found =>
    split at same
    case h_1 => cases same
    case h_2 other present =>
      simp only [List.cons_append, List.append_assoc, List.cons.injEq, true_and] at same
      rw [found, present, Text.selfDelimiting_quoteWith unseen text other _ _ same]

/-- A kind and a text, if there is one, determine a token. -/
theorem eq_of_kind_of_text? {left right : Token} (kinds : left.kind = right.kind)
    (texts : left.text? = right.text?) : left = right := by
  cases left <;> cases right <;> simp_all [kind, text?]

/-- A displayed token determines the token, whatever stands behind it. -/
theorem selfDelimiting_displayWith (unseen : Char → Bool) :
    Text.SelfDelimiting fun token : Token => (token.displayWith unseen).toList := by
  intro left right first second same
  simp only [displayWith_toList, List.append_assoc] at same
  have behind := List.append_cancel_left same
  have names : left.kind.name.toList = right.kind.name.toList := by
    rw [← takeWhile_name unseen left first, behind, takeWhile_name]
  rw [names] at behind
  exact eq_of_kind_of_text? (Kind.name_injective (String.toList_inj.1 names))
    (text?_eq_of_afterName (List.append_cancel_left behind))

/-- In the display of a list every token but the first has a separator before it. -/
theorem displayListWith_cons_toList (unseen : Char → Bool) (token : Token) (tokens : List Token) :
    (displayListWith unseen (token :: tokens)).toList =
      '[' :: ((token.displayWith unseen).toList ++
        (tokens.flatMap (fun token => ", ".toList ++ (token.displayWith unseen).toList) ++
          [']'])) := by
  simp [displayListWith, String.toList_intercalate, Text.intercalate_cons, List.flatMap_map]

/-- A list that is not empty is not displayed as the empty one. -/
theorem displayListWith_cons_ne_nil (unseen : Char → Bool) (token : Token) (tokens : List Token) :
    displayListWith unseen (token :: tokens) ≠ displayListWith unseen [] := by
  intro same
  have characters := congrArg String.toList same
  have empty : (displayListWith unseen []).toList = '[' :: [']'] := by simp [displayListWith]
  rw [displayListWith_cons_toList, displayWith_toList, empty] at characters
  have begins := (List.cons.inj (List.cons.inj characters).2).1
  contradiction

/-- A displayed list determines the list. -/
theorem displayListWith_injective {unseen : Char → Bool} {left right : List Token}
    (same : displayListWith unseen left = displayListWith unseen right) : left = right := by
  cases left with
  | nil =>
    cases right with
    | nil => rfl
    | cons token tokens => exact absurd same.symm (displayListWith_cons_ne_nil unseen token tokens)
  | cons token tokens =>
    cases right with
    | nil => exact absurd same (displayListWith_cons_ne_nil unseen token tokens)
    | cons other others =>
      have characters := congrArg String.toList same
      rw [displayListWith_cons_toList, displayListWith_cons_toList] at characters
      have behind := (List.cons.inj characters).2
      obtain rfl := selfDelimiting_displayWith unseen token other _ _ behind
      have separated := ((selfDelimiting_displayWith unseen).prepend ", ".toList).sequence
        fun token first second (same : _ = ']' :: _) => absurd (List.cons.inj same).1 (by decide)
      rw [separated.injective (List.append_cancel_left behind)]

end Token

namespace Session

/-- The tokens that occur first are those of the list. -/
theorem mem_firstOccurrences {token : Token} {tokens : List Token} :
    token ∈ firstOccurrences tokens ↔ token ∈ tokens := by
  induction tokens with
  | nil => rfl
  | cons first rest ih =>
    rw [firstOccurrences, List.mem_cons, List.mem_cons, List.mem_filter, ih, bne_iff_ne]
    by_cases same : token = first <;> simp [same]

/-- No token occurs first twice. -/
theorem nodup_firstOccurrences (tokens : List Token) : (firstOccurrences tokens).Nodup := by
  induction tokens with
  | nil => exact List.nodup_nil
  | cons first rest ih =>
    refine List.nodup_cons.2 ⟨fun within => ?_, ih.filter _⟩
    simpa using (List.mem_filter.1 within).2

end Session

/-- Whichever characters from U+0080 on are written by their number, two displays are equal only if
the tokens are, which have then the same kind and the same text; the displays of two lists are equal
only if the lists are; and the displays of the tokens that a list holds, each taken once, are all
different. -/
theorem display_identifies_tokens (unseen : Char → Bool) :
    (∀ left right : Token,
      (left.displayWith unseen = right.displayWith unseen ↔ left = right) ∧
        (left = right ↔ left.kind = right.kind ∧ left.text? = right.text?)) ∧
      (∀ left right : List Token,
        Token.displayListWith unseen left = Token.displayListWith unseen right ↔ left = right) ∧
      ∀ tokens : List Token,
        ((tokens.map (Token.displayWith unseen)).Nodup ↔ tokens.Nodup) ∧
          ((Session.firstOccurrences tokens).map (Token.displayWith unseen)).Nodup ∧
          ∀ text, text ∈ (Session.firstOccurrences tokens).map (Token.displayWith unseen) ↔
            text ∈ tokens.map (Token.displayWith unseen) := by
  have injective : Function.Injective (Token.displayWith unseen) := fun _ _ same =>
    (Token.selfDelimiting_displayWith unseen).injective (congrArg String.toList same)
  refine ⟨fun left right => ⟨injective.eq_iff, ?_⟩, fun left right => ?_, fun tokens => ?_⟩
  · exact ⟨fun same => same ▸ ⟨rfl, rfl⟩, fun same => Token.eq_of_kind_of_text? same.1 same.2⟩
  · exact ⟨Token.displayListWith_injective, congrArg _⟩
  · refine ⟨List.nodup_map_iff injective, ?_, fun text => ?_⟩
    · exact (Session.nodup_firstOccurrences tokens).map injective
    · simp only [List.mem_map, Session.mem_firstOccurrences]

end Lexis
