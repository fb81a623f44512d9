import KeywordCatalog.Text.Basic
import KeywordCatalog.Text.Case

/-!
# The words of a keyword name

A name with spaces or low lines is divided at each of them. A name without them is divided before
capital letters and digits, unless it is all in upper case.
-/

namespace KeywordCatalog.Keyword

open Text

/-- Whether a character starts a new word inside a name. -/
def startsWord (c : Char) : Bool := c.isUpper || c.isDigit

/-- The words of a name without dividers. `current` holds the word being read, the latest character
first; characters before the first letter or digit belong to no word. -/
def camelWords : Option (List Char) → List Char → List (List Char)
  | none, [] => []
  | some current, [] => [current.reverse]
  | none, c :: rest => camelWords (if c.isAlphanum then some [c] else none) rest
  | some current, c :: rest =>
    if startsWord c then current.reverse :: camelWords (some [c]) rest
    else camelWords (some (c :: current)) rest

/-- The words of a name. -/
def words (name : List Char) : List (List Char) :=
  if name.contains '_' || name.contains ' ' then
    (name.splitOn ' ').flatMap fun part => part.splitOn '_'
  else if isUpperCase name then [name]
  else camelWords none name

end KeywordCatalog.Keyword
