import Lexis.Text.Unseen

/-!
# Details of a fault

A fault that does not come from the vocabulary brings details, values in a fixed order. One detail
is shown as it is. Several are listed between parentheses, and there a text is quoted, so that it
is seen where each ends. What the system says has a form of its own, with a code, the meaning of
the code and the paths that are concerned.
-/

namespace Lexis

/-- A value that comes with a fault. -/
inductive Detail where
  /-- A text. -/
  | text (value : String)
  /-- A number. -/
  | number (value : Int)
  /-- A truth value. -/
  | truth (value : Bool)
  /-- No value, in the place of one. -/
  | nothing
deriving DecidableEq, Repr

namespace Detail

/-- A detail as it is. -/
def plain : Detail → String
  | .text value => value
  | .number value => toString value
  | .truth true => "True"
  | .truth false => "False"
  | .nothing => "None"

/-- A detail whose ends are seen: a text is quoted. -/
def display : Detail → String
  | .text value => Text.quote value
  | other => other.plain

/-- Details in their order, between parentheses. -/
def listing (details : List Detail) : String :=
  "(" ++ ", ".intercalate (details.map display) ++ ")"

/-- The wording of details: nothing says nothing, and one detail is shown as it is. -/
def wording : List Detail → String
  | [] => ""
  | [detail] => detail.plain
  | details => listing details

/-- The paths that the system names: the first detail, and the third where the first is given. The
second is never shown. -/
def paths : List Detail → String
  | [] | .nothing :: _ => ""
  | [source, _, .nothing] => ": " ++ source.display
  | [source, _, target] => ": " ++ source.display ++ " -> " ++ target.display
  | source :: _ => ": " ++ source.display

/-- The wording of what the system says: a code, its meaning and at most three more details. Any
other number of details is worded like those of other faults. -/
def systemWording : List Detail → String
  | code :: meaning :: rest =>
    if rest.length ≤ 3 then "[Errno " ++ code.plain ++ "] " ++ meaning.plain ++ paths rest
    else listing (code :: meaning :: rest)
  | details => wording details

end Detail

end Lexis
