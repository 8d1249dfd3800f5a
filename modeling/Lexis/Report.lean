/-!
# Reports

A report is what a refusal shows: a message, a hint where there is something to suggest, and the
name of the kind of token it is about where it is about one. Its text has the message on the first
line and the hint on a line of its own after it; an empty hint is not shown.
-/

namespace Lexis

/-- A refusal in words. -/
structure Report where
  /-- What is wrong. -/
  message : String
  /-- What to do about it. -/
  hint : Option String
  /-- The kind of token that the report is about. -/
  kindName : Option String
deriving DecidableEq, Repr

/-- The lines after the message. -/
def Report.hintText (report : Report) : String :=
  match report.hint with
  | none => ""
  | some hint => if hint = "" then "" else "\nhint: " ++ hint

/-- The full text of a report. -/
def Report.text (report : Report) : String := "error: " ++ report.message ++ report.hintText

end Lexis
