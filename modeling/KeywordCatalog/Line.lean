import KeywordCatalog.Pattern.Compiled

/-!
# The text around the cursor

A line and a column, and what stands around the cursor: the word that is being typed, the rest of
the line, and the object in front of a dot.
-/

namespace KeywordCatalog.Line

open Text

/-- The characters right before a column that are not blank. A line break at the end of the text
before the column does not count. -/
def wordBefore (line : List Char) (column : Int) : List Char :=
  trailing (!isBlank ·) (dropFinalBreak (upTo column line))

/-- The text from a column on. -/
def restFrom (line : List Char) (column : Int) : List Char := startingAt column line

/-- The object in front of the dot before the text that is being typed: it follows a blank, and what
is typed reaches up to the column. What is typed counts as a pattern. -/
def objectBefore (line typed : String) (column : Int) : Except Fault (Option String) := do
  let p ← Pattern.compile ("(?:\\s)([^\\s]+)(?:\\." ++ typed ++ ")$")
  let found ← p.find (upTo column line.toList)
  return (found.bind (·.group? 1)).map String.ofList

end KeywordCatalog.Line
