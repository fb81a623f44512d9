import KeywordCatalog.Document.Access
import KeywordCatalog.Text.Blank

/-!
# Views

A file as it is open in the editor: its text, the place of the cursor, and what the editor knows of
that place. The cell separator is a shell variable among the facts for the place.
-/

namespace KeywordCatalog

/-- The cell separator among some facts: the value of the first with that name, null if there is
none. -/
def cellSeparator : List Value → Except Fault Value
  | [] => .ok .null
  | fact :: rest => do
    if (← fact.field "name").same (.text "RF_CELL") then fact.field "value"
    else cellSeparator rest

/-- A file in the editor. -/
structure View where
  file : Option String := none
  text : String := ""
  cursor : Nat := 0
  scope : String := "source.robot "
  /-- How well the place of the cursor fits a selector. -/
  scores : List (String × Value) := []
  facts : List Value := [.object [("name", .text "RF_CELL"), ("value", .text "    ")]]
deriving Repr

namespace View

/-- Whether a character does not end a line. -/
def inLine (c : Char) : Bool := c != '\n'

/-- The text before the cursor. -/
def before (v : View) : List Char := v.text.toList.take v.cursor

/-- The part of the cursor's line that is before the cursor. -/
def lineBefore (v : View) : List Char := Text.trailing inLine v.before

/-- The line of the cursor. -/
def line (v : View) : List Char :=
  v.lineBefore ++ (v.text.toList.drop v.cursor).takeWhile inLine

/-- The column of the cursor. -/
def column (v : View) : Nat := v.cursor - (v.before.length - v.lineBefore.length)

/-- The cell separator for the view. -/
def separator (v : View) : Except Fault Value := cellSeparator v.facts

/-- Whether the view holds test data. -/
def isTestData (v : View) : Bool :=
  Text.contains "source.robot".toList (Text.trim Text.isBlank v.scope.toList)

/-- Whether the place of the cursor fits a selector. -/
def fits (v : View) (selector : String) : Bool := ((v.scores.lookup selector).getD .null).truthy

end View

end KeywordCatalog
