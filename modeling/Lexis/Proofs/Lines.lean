import Lexis.Proofs.Reading

/-!
# Printed records

A token is printed as one record on a line of its own. The record starts with the type name in a
fixed frame (`Token.opening`), which holds no escape character, so the removal of control sequences
never reaches it, and what is removed from the rest takes no line with it. A text can be read back
from its lines (`Text.IsLines.unique`) and a token from its record (`Token.render_injective`), so
where no control sequence can start, the output determines the tokens.
-/

namespace Lexis

namespace Text

/-- The text consists of these lines and nothing else, each with its end. -/
structure IsLines (lines : List String) (text : String) : Prop where
  joined : text = String.join (lines.map (· ++ "\n"))
  whole : ∀ line ∈ lines, '\n' ∉ line.toList

/-- The lines of a text are its pieces between the ends of lines, and nothing stands behind the last
end. -/
theorem IsLines.pieces_eq {lines : List String} {text : String} (consists : IsLines lines text) :
    pieces (· == '\n') text.toList = lines.map String.toList ++ [[]] := by
  obtain ⟨rfl, whole⟩ := consists
  induction lines with
  | nil => rfl
  | cons line lines ih =>
    obtain ⟨first, later⟩ := List.forall_mem_cons.1 whole
    have cut : (String.join ((line :: lines).map (· ++ "\n"))).toList =
        line.toList ++ '\n' :: (String.join (lines.map (· ++ "\n"))).toList := by simp
    have one : pieces (· == '\n') line.toList = [line.toList] := by
      refine pieces_of_forall fun character within => beq_eq_false_iff_ne.2 ?_
      rintro rfl
      exact first within
    rw [cut, pieces_append_cons rfl, one, ih later]
    rfl

/-- A text consists of lines in one way at most. -/
theorem IsLines.unique {lines others : List String} {text : String}
    (first : IsLines lines text) (second : IsLines others text) : lines = others := by
  have same := first.pieces_eq.symm.trans second.pieces_eq
  have injective : Function.Injective String.toList := fun _ _ => String.toList_inj.1
  exact List.map_injective_iff.2 injective (List.append_cancel_right same)

namespace ControlSequence

/-- No escape character stands right in front of a left bracket, so no sequence starts. -/
def Plain (text : List Char) : Prop := ¬[escape, '['] <:+: text

instance (text : List Char) : Decidable (Plain text) := inferInstanceAs (Decidable ¬_)

/-- What stays of a text is in it, in order. -/
theorem stripAfter_sublist (skipped : Nat) (text : List Char) :
    (stripAfter skipped text).Sublist text := by
  fun_induction stripAfter skipped text with
  | case1 => exact .slnil
  | case2 skipped first rest ih => exact ih.cons first
  | case3 rest length found ih => exact ih.cons escape
  | case4 rest none ih => exact ih.cons_cons escape
  | case5 first rest other ih => exact ih.cons_cons first

/-- A text in which no sequence starts stays as it is. -/
theorem stripAfter_of_plain {text : List Char} (plain : Plain text) : stripAfter 0 text = text := by
  induction text with
  | nil => rfl
  | cons character rest ih =>
    have later : Plain rest := fun found => plain (List.infix_cons_iff.2 (.inr found))
    rw [stripAfter]
    split
    · rename_i escapes
      have unstarted : lengthAfterEscape? rest = none := by
        unfold lengthAfterEscape?
        split
        · rename_i more
          exact absurd ⟨[], more, by rw [escapes]; rfl⟩ plain
        · rfl
      rw [unstarted, ih later]
    · rw [ih later]

/-- No sequence starts where two texts meet unless the second one starts with a left bracket. -/
theorem plain_append {front rest : List Char} (first : Plain front) (second : Plain rest)
    (apart : rest.head? ≠ some '[') : Plain (front ++ rest) := by
  intro found
  rcases List.infix_append_iff.1 found with within | within | ⟨left, right, cut, before, after⟩
  · exact first within
  · exact second within
  · match left, right with
    | [], right => exact second (cut ▸ after.isInfix)
    | [_], right =>
      obtain ⟨_, rfl⟩ := List.cons.inj cut
      obtain ⟨more, rfl⟩ := after
      exact apart rfl
    | _ :: _ :: left, right =>
      obtain ⟨rfl, rfl, nothing⟩ : _ ∧ _ ∧ left ++ right = [] := by simpa [eq_comm] using cut
      obtain ⟨rfl, rfl⟩ := List.append_eq_nil_iff.1 nothing
      exact first before.isInfix

end ControlSequence

/-- Every piece of a text stands in it, and the first one at its start. -/
theorem infix_of_pieces {separates : Char → Bool} {text first : List Char}
    {later : List (List Char)} (cut : pieces separates text = first :: later) :
    first <+: text ∧ ∀ piece ∈ later, piece <:+: text := by
  induction text generalizing first later with
  | nil =>
    obtain ⟨rfl, rfl⟩ := List.cons.inj cut
    exact ⟨List.nil_prefix, by simp⟩
  | cons character rest ih =>
    obtain ⟨head, tail, found⟩ := List.exists_cons_of_ne_nil (pieces_ne_nil separates rest)
    obtain ⟨starts, within⟩ := ih found
    have shifted {piece : List Char} (inside : piece <:+: rest) : piece <:+: character :: rest :=
      inside.trans (List.suffix_cons character rest).isInfix
    change (if separates character then [] :: pieces separates rest
      else extendFirst character (pieces separates rest)) = first :: later at cut
    rw [found] at cut
    split at cut
    · obtain ⟨rfl, rfl⟩ := List.cons.inj cut
      exact ⟨List.nil_prefix,
        List.forall_mem_cons.2 ⟨shifted starts.isInfix, fun piece listed =>
          shifted (within piece listed)⟩⟩
    · obtain ⟨rfl, rfl⟩ := List.cons.inj cut
      exact ⟨List.cons_prefix_cons.2 ⟨rfl, starts⟩, fun piece listed =>
        shifted (within piece listed)⟩

/-- Every word of a text stands in it. -/
theorem infix_of_mem_words {text word : List Char} (listed : word ∈ words text) :
    word <:+: text := by
  obtain ⟨first, later, cut⟩ := List.exists_cons_of_ne_nil (pieces_ne_nil isBlank text)
  obtain ⟨starts, within⟩ := infix_of_pieces cut
  have piece : word ∈ first :: later := cut ▸ (List.mem_filter.1 listed).1
  rcases List.mem_cons.1 piece with rfl | listed
  · exact starts.isInfix
  · exact within word listed

end Text

/-- A type name is spelled with letters alone. -/
theorem Kind.isAlpha_of_mem_typeName (kind : Kind) :
    ∀ character ∈ kind.typeName.toList, character.isAlpha = true := by
  have spelled : ∀ kind : Kind, kind.typeName.toList.all Char.isAlpha = true :=
    forall_iff_all.2 (by decide)
  exact List.all_eq_true.1 (spelled kind)

/-- A type name determines its kind. -/
theorem Kind.typeName_injective {left right : Kind} (same : left.typeName = right.typeName) :
    left = right := by
  have distinct : ∀ first ∈ all, ∀ second ∈ all,
      first.typeName = second.typeName → first = second := by decide
  exact distinct left left.mem_all right right.mem_all same

namespace Token

/-- A character that is no letter is not in a type name. -/
theorem not_mem_typeName {character : Char} (other : character.isAlpha = false) (token : Token) :
    character ∉ token.typeName.toList := by
  intro within
  rw [token.kind.isAlpha_of_mem_typeName character within] at other
  contradiction

/-- The start of a record, up to the literal. -/
def opening (token : Token) : String := "\x7btype: " ++ token.typeName ++ ", literal: \""

theorem render_toList (token : Token) :
    token.render.toList = token.opening.toList ++ (token.literal.toList ++ ['"', '\x7d']) := by
  simp [render, opening]

/-- A kind and a literal determine a token. -/
theorem eq_of_kind_of_literal {left right : Token} (kinds : left.kind = right.kind)
    (literals : left.literal = right.literal) : left = right := by
  cases left with
  | fixed mark =>
    cases right with
    | fixed other => exact congrArg Token.fixed (Kind.fixed.inj kinds)
    | identifier => contradiction
    | integer => contradiction
  | identifier text =>
    cases right with
    | fixed => contradiction
    | identifier other => exact congrArg Token.identifier literals
    | integer => contradiction
  | integer digits =>
    cases right with
    | fixed => contradiction
    | identifier => contradiction
    | integer other => exact congrArg Token.integer literals

/-- A record determines its token, whatever stands in the literal: the type name ends at the first
comma, and behind the literal there are two characters. -/
theorem render_injective {left right : Token} (same : left.render = right.render) :
    left = right := by
  have cut (token : Token) : token.render.toList = "\x7btype: ".toList ++ (token.typeName.toList ++
      ',' :: (" literal: \"".toList ++ (token.literal.toList ++ ['"', '\x7d']))) := by
    simp [render]
  have name (token : Token) (rest : List Char) :
      (Text.pieces (· == ',') (token.typeName.toList ++ ',' :: rest)).head? =
        some token.typeName.toList := by
    have one : Text.pieces (· == ',') token.typeName.toList = [token.typeName.toList] := by
      refine Text.pieces_of_forall fun character within => beq_eq_false_iff_ne.2 ?_
      rintro rfl
      exact not_mem_typeName rfl token within
    rw [Text.pieces_append_cons rfl, one]
    rfl
  have characters := congrArg String.toList same
  rw [cut, cut] at characters
  have behind := List.append_cancel_left characters
  have names : left.typeName.toList = right.typeName.toList := by
    have firsts := congrArg (fun text => (Text.pieces (· == ',') text).head?) behind
    simpa only [name, Option.some.injEq] using firsts
  rw [names] at behind
  have rest := (List.cons.inj (List.append_cancel_left behind)).2
  have literals := List.append_cancel_right (List.append_cancel_left rest)
  have kinds : left.kind = right.kind := Kind.typeName_injective (String.toList_inj.1 names)
  exact eq_of_kind_of_literal kinds (String.toList_inj.1 literals)

/-- There is no escape character in front of the literal. -/
theorem escape_not_mem_opening (token : Token) :
    Text.ControlSequence.escape ∉ token.opening.toList := by
  have name := not_mem_typeName (rfl : Text.ControlSequence.escape.isAlpha = false) token
  simp only [opening, String.toList_append, List.mem_append, not_or]
  exact ⟨⟨by decide, name⟩, by decide⟩

/-- A record without a literal that ends its line stands on one line. -/
theorem newline_not_mem_render {token : Token} (whole : '\n' ∉ token.literal.toList) :
    '\n' ∉ token.render.toList := by
  have name := not_mem_typeName (rfl : '\n'.isAlpha = false) token
  simp only [render_toList, opening, String.toList_append, List.mem_append, not_or]
  exact ⟨⟨⟨by decide, name⟩, by decide⟩, whole, by decide⟩

open Text.ControlSequence

/-- What is printed of a record starts as the record does. -/
theorem opening_prefix_strip_render (token : Token) :
    token.opening.toList <+: (strip token.render).toList := by
  rw [strip, String.toList_ofList, render_toList, stripAfter_append token.escape_not_mem_opening]
  exact List.prefix_append _ _

/-- A record in whose literal no control sequence starts is printed as it is. -/
theorem strip_render_of_plain {token : Token} (plain : Plain token.literal.toList) :
    strip token.render = token.render := by
  have frame : Plain ['"', '\x7d'] := by decide
  have ending := stripAfter_of_plain (plain_append plain frame (by decide))
  rw [strip, render_toList, stripAfter_append token.escape_not_mem_opening, ending, ← render_toList,
    String.ofList_toList]

/-- A type name is printed as it is. -/
theorem strip_typeName (token : Token) : strip token.typeName = token.typeName :=
  strip_of_not_mem (not_mem_typeName rfl token)

end Token

/-- Lines are printed one by one. -/
theorem isLines_printedLines {lines : List String} (whole : ∀ line ∈ lines, '\n' ∉ line.toList) :
    Text.IsLines (lines.map Text.ControlSequence.strip) (printedLines lines) where
  joined := by
    rw [printedLines, List.map_map]
    rfl
  whole line listed := by
    obtain ⟨original, member, rfl⟩ := List.mem_map.1 listed
    intro within
    rw [Text.ControlSequence.strip, String.toList_ofList] at within
    have kept := Text.ControlSequence.stripAfter_sublist 0 original.toList
    exact whole original member (kept.subset within)

namespace Options

variable {options : Options} {text : List Char} {token : Token}

/-- No token of a text ends a line, because the end of a line is a blank. -/
theorem newline_not_mem_literal (listed : token ∈ options.tokensOf text) :
    '\n' ∉ token.literal.toList := by
  intro within
  have blank : Text.isBlank '\n' = false := not_blank_of_mem_literal listed '\n' within
  contradiction

/-- No control sequence starts in a token of a text where none starts in the text. -/
theorem plain_literal (plain : Text.ControlSequence.Plain text)
    (listed : token ∈ options.tokensOf text) :
    Text.ControlSequence.Plain token.literal.toList := by
  by_cases illegal : token = .illegal
  · subst illegal
    decide
  · rcases (literal_of_mem_tokensOf listed illegal).1 with within | last
    · exact fun found => plain (found.trans (Text.infix_of_mem_words within))
    · rw [last]
      decide

end Options

namespace Command

variable {arguments : List String} {entry : String → Entry} {stdin : List UInt8}
  {invocation : Invocation} {text : List Char}

/-- The lines of a run that reads a text: one for each token, as it is printed. -/
theorem ReadsText.isLines (reads : ReadsText arguments entry stdin invocation text) :
    ∃ outcome, run arguments entry stdin = .ok outcome ∧ outcome.exit = .success ∧
      Text.IsLines (((invocation.options.tokensOf text).map invocation.tokenLine).map
        Text.ControlSequence.strip) outcome.stdout := by
  obtain ⟨log, ran⟩ := reads.exists_run
  refine ⟨_, ran, rfl, isLines_printedLines fun line listed => ?_⟩
  obtain ⟨token, member, rfl⟩ := List.mem_map.1 listed
  rw [Invocation.tokenLine]
  split
  · exact Token.not_mem_typeName rfl token
  · exact Token.newline_not_mem_render (Options.newline_not_mem_literal member)

theorem Invocation.tokenLine_of_full (full : invocation.typesOnly = false) :
    invocation.tokenLine = Token.render := by
  funext token
  rw [tokenLine, full]
  rfl

/-- The lines of a run that reads a text in which no control sequence starts are its records. -/
theorem ReadsText.isLines_render (reads : ReadsText arguments entry stdin invocation text)
    (full : invocation.typesOnly = false) (plain : Text.ControlSequence.Plain text) :
    ∃ outcome, run arguments entry stdin = .ok outcome ∧
      Text.IsLines ((invocation.options.tokensOf text).map Token.render) outcome.stdout := by
  obtain ⟨outcome, ran, _, lines⟩ := reads.isLines
  have kept : ((invocation.options.tokensOf text).map Token.render).map
      Text.ControlSequence.strip = (invocation.options.tokensOf text).map Token.render := by
    rw [List.map_map]
    exact List.map_congr_left fun token listed =>
      Token.strip_render_of_plain (Options.plain_literal plain listed)
  rw [Invocation.tokenLine_of_full full, kept] at lines
  exact ⟨outcome, ran, lines⟩

/-- A run that reads a text prints one record for each of its tokens, on a line of its own that
starts with the type name, whatever is removed behind that; the type names are what the run prints
that is asked for them alone. Where no control sequence starts in the text the lines are the
records, and two runs on such texts that print the same have the same tokens. -/
theorem prints_one_record_per_token (reads : ReadsText arguments entry stdin invocation text)
    (full : invocation.typesOnly = false) :
    ∃ outcome lines types, run arguments entry stdin = .ok outcome ∧
      outcome.exit = .success ∧ Text.IsLines lines outcome.stdout ∧
      List.Forall₂ (fun (token : Token) line => token.opening.toList <+: line.toList)
        (invocation.options.tokensOf text) lines ∧
      run ("-t" :: arguments) entry stdin = .ok types ∧
      Text.IsLines ((invocation.options.tokensOf text).map Token.typeName) types.stdout ∧
      (Text.ControlSequence.Plain text →
        lines = (invocation.options.tokensOf text).map Token.render ∧
        ∀ others elsewhere input request again second,
          ReadsText others elsewhere input request again → request.typesOnly = false →
          Text.ControlSequence.Plain again → run others elsewhere input = .ok second →
          second.stdout = outcome.stdout →
          request.options.tokensOf again = invocation.options.tokensOf text) := by
  obtain ⟨outcome, ran, exit, printed⟩ := reads.isLines
  rw [Invocation.tokenLine_of_full full, List.map_map] at printed
  have named : ReadsText ("-t" :: arguments) entry stdin (invocation.switchOn .typesOnly) text :=
    reads.cons (Switch.spells_flag .typesOnly)
  obtain ⟨types, ranTypes, _, printedTypes⟩ := named.isLines
  have typeNames : ((invocation.switchOn .typesOnly).options.tokensOf text).map
      (Text.ControlSequence.strip ∘ (invocation.switchOn .typesOnly).tokenLine) =
      (invocation.options.tokensOf text).map Token.typeName :=
    List.map_congr_left fun token _ => token.strip_typeName
  rw [List.map_map, typeNames] at printedTypes
  refine ⟨outcome, _, types, ran, exit, printed, ?_, ranTypes, printedTypes, fun plain => ?_⟩
  · rw [List.forall₂_map_right_iff, List.forall₂_same]
    exact fun token _ => token.opening_prefix_strip_render
  · obtain ⟨_, ranAgain, records⟩ := reads.isLines_render full plain
    obtain rfl := Except.ok.inj (ran.symm.trans ranAgain)
    refine ⟨printed.unique records, ?_⟩
    intro others elsewhere input request again second readsAgain fullAgain plainAgain ranSecond same
    obtain ⟨_, ranThird, recordsAgain⟩ := readsAgain.isLines_render fullAgain plainAgain
    obtain rfl := Except.ok.inj (ranSecond.symm.trans ranThird)
    rw [same] at recordsAgain
    have injective : Function.Injective Token.render := fun _ _ => Token.render_injective
    exact List.map_injective_iff.2 injective (recordsAgain.unique records)

/-- An unfinished control sequence takes the end of its record with it and not the line, and the
type names are those of the same tokens. -/
theorem prints_one_record_per_token_past_control_sequence :
    let text := "\x1b[3 let".toList
    let entry := fun _ => Entry.file (Text.Utf8.encode text)
    ReadsText ["--eof", "-f", "a"] entry [] (.ofParts [.appendEof] (some "a") []) text ∧
      ∃ outcome lines types, run ["--eof", "-f", "a"] entry [] = .ok outcome ∧
        Text.IsLines lines outcome.stdout ∧ lines.length = 3 ∧
        run ["-t", "--eof", "-f", "a"] entry [] = .ok types ∧
        Text.IsLines ["Identifier", "Let", "Eof"] types.stdout := by
  intro text entry
  have written : Written ["--eof", "-f", "a"] (itemsOf [.appendEof] (some "a") []) :=
    .complete (.switch .appendEof) (.withPath (.lettersPathDue []) "a" .nothing)
  have reads : ReadsText ["--eof", "-f", "a"] entry [] (.ofParts [.appendEof] (some "a") [])
      text := by
    refine readsText_of_written written (.file rfl rfl rfl) ?_
    rintro path ⟨⟩
    decide
  have tokens : (optionsOf [.appendEof]).tokensOf text =
      [.identifier "\x1b[3", .fixed (.keyword .letBinding), .eof] := by decide
  obtain ⟨outcome, lines, types, ran, _, printed, each, ranTypes, named, _⟩ :=
    prints_one_record_per_token reads rfl
  change List.Forall₂ _ ((optionsOf [.appendEof]).tokensOf text) lines at each
  change Text.IsLines (((optionsOf [.appendEof]).tokensOf text).map Token.typeName) _ at named
  rw [tokens] at each named
  exact ⟨reads, outcome, lines, types, ran, printed, each.length_eq.symm, ranTypes, named⟩

end Command

end Lexis
