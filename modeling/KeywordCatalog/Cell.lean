import KeywordCatalog.Catalog
import KeywordCatalog.Keyword.Equality

/-!
# The cell under the cursor

A line is divided into cells by two or more spaces. The cell under the cursor is put together from
what stands before it and what stands after it: before the cursor, words with one space between
them; after it, words with one or two.

A cell can be a keyword, or the name of a library or resource, a dot and a keyword. Since both
names may have dots, the parts are told apart by the records of an index: the longest object wins,
and among records with objects of the same length the last one.
-/

namespace KeywordCatalog.Cell

open Text

/-- The part of a cell before the cursor, from the cursor backwards: words with single spaces
between them. -/
def backwards : List Char → List Char
  | [] => []
  | c :: rest =>
    if !isBlank c then c :: backwards rest
    else if c == ' ' && rest.head?.any (!isBlank ·) then c :: backwards rest
    else []

/-- The part of a cell before the cursor. It may end with one space. -/
def before? (text : List Char) : Option (List Char) :=
  match (dropFinalBreak text).reverse with
  | [] => none
  | c :: rest =>
    if !isBlank c then some (backwards (c :: rest)).reverse
    else if c == ' ' && rest.head?.any (!isBlank ·) then some (c :: backwards rest).reverse
    else none

/-- The part of a cell after the cursor, after some spaces: words with one or two spaces between
them, and a space at the end if there is one. -/
def forwards : Nat → List Char → List Char
  | _, [] => []
  | spaces, c :: rest =>
    if !isBlank c then c :: forwards 0 rest
    else if c == ' ' && spaces == 0 then c :: forwards 1 rest
    else if c == ' ' && spaces == 1 && rest.head?.any (!isBlank ·) then c :: forwards 2 rest
    else []

/-- The part of a cell after the cursor. It may start with one space. -/
def after? (text : List Char) : Option (List Char) :=
  match text with
  | [] => none
  | c :: rest =>
    if !isBlank c then some (forwards 0 (c :: rest))
    else if c == ' ' && rest.head?.any (!isBlank ·) then some (c :: forwards 0 rest)
    else none

/-- The cell of a line at a column, if there is one. -/
def chars? (line : List Char) (column : Int) : Option (List Char) :=
  match before? (upTo column line), after? (startingAt column line) with
  | some left, some right => some (left ++ dropTrailing isBlank right)
  | none, some right => some right
  | some left, none => some left
  | none, none => none

/-- The cell of a line at a column, if there is one. -/
def at? (line : String) (column : Int) : Option String :=
  (chars? line.toList column).map String.ofList

/-- An object and a keyword, both empty if nothing is known of them. -/
structure Split where
  object : String
  keyword : String
deriving DecidableEq, Repr

/-- The pattern that finds an object's name, a dot and what follows on the line. Only the dots of
the name are taken as characters. -/
def afterObjectPattern (object : String) : String :=
  let escaped := object.toList.flatMap fun c => if c == '.' then ['\\', '.'] else [c]
  "(?:" ++ String.ofList escaped ++ "\\.)(.+)"

/-- The split of a cell at an object, if what follows the object is the candidate's keyword. -/
def splitAt (cell object : String) (candidate : Value) : Except Fault (Option Split) := do
  let p ← Pattern.compile (afterObjectPattern object)
  let keyword : Value :=
    match ← p.find cell.toList with
    | some m => Value.ofText? ((m.group? 1).map String.ofList)
    | none => .text ""
  if ← Keyword.isNamedBy keyword candidate then
    let keyword ← keyword.asText
    return if keyword.isEmpty then none else some ⟨object, keyword⟩
  else return none

/-- The split of a cell after a record, given the best one so far. -/
def betterSplit (cell : String) (best : Split) (record : Value) : Except Fault Split := do
  let object ← record.item 2
  let byname ← record.item 4
  let candidate ← record.item 0
  let consider (name : String) : Except Fault Split :=
    if best.object.length ≤ name.length then do
      return (← splitAt cell name candidate).getD best
    else return best
  let object ← object.textOnly
  if object.toList.isPrefixOf cell.toList then consider object
  else if byname.truthy then
    let name ← byname.textOnly
    if name.toList.isPrefixOf cell.toList then consider name else return best
  else return best

/-- The object and the keyword of a cell, by the records of an index. -/
def split (s : Store) (index cell : String) : Except Fault Split := do
  let records ← s.indexedKeywords index
  records.foldlM (betterSplit cell) ⟨"", ""⟩

/-- The keyword at a column of a line, and its object if the cell has a dot. -/
def keywordAt (s : Store) (index line : String) (column : Int) :
    Except Fault (String × Option String) := do
  match at? line column with
  | none => throw .wrongKind
  | some cell =>
    if cell.contains '.' then
      let parts ← split s index cell
      return (parts.keyword, some parts.object)
    else return (cell, none)

end KeywordCatalog.Cell
