import KeywordCatalog.Document.Access
import KeywordCatalog.Document.Display

/-!
# Completion items

An item of a completion list: what the list shows, and what is inserted. The shown text of a keyword
has its source behind a tab. The inserted text is the keyword with its arguments, either in one line
with a cell separator before each argument, or with each argument on a continuation line of its own.

In inserted text a dollar sign would start a field of a snippet, so the dollar signs of embedded
arguments are escaped.
-/

namespace KeywordCatalog.Completion

open Text

/-- An entry of a completion list. -/
structure Item where
  trigger : String
  insertion : String
deriving DecidableEq, Repr

/-- A text with a backslash before each dollar sign. -/
def escapeDollars (text : List Char) : List Char :=
  text.flatMap fun c => if c == '$' then ['\\', '$'] else [c]

/-- A line with the dollar signs escaped from the first opening of an embedded argument to the last
closing brace after it. -/
def escapeLine : List Char → List Char
  | [] => []
  | '$' :: '\x7b' :: rest =>
    match beforeLast '\x7d' rest with
    | some inner =>
      escapeDollars ('$' :: '\x7b' :: inner) ++ rest.drop inner.length
    | none => '$' :: '\x7b' :: rest
  | c :: rest => c :: escapeLine rest

/-- A keyword with the dollar signs of its embedded arguments escaped, line by line. -/
def escapeArguments (keyword : List Char) : List Char :=
  ['\n'].intercalate ((lines keyword).map escapeLine)

/-- The start of a line that continues a keyword's arguments. -/
def continuation : String := "..."

/-- The inserted text in one line. -/
def oneLine (keyword : String) (arguments cell : Value) : Except Fault String := do
  let arguments ← arguments.elements
  return String.ofList (escapeArguments keyword.toList)
    ++ String.join (arguments.map fun a => cell.shown ++ a.shown)

/-- The inserted text with a line for each argument. -/
def manyLines (keyword : String) (arguments cell : Value) : Except Fault String := do
  let items ← arguments.elements
  let head := escapeArguments keyword.toList ++ (if arguments.truthy then ['\n'] else [])
  if items.isEmpty then return String.ofList (dropTrailing (· == '\n') head)
  let cell ← cell.textOnly
  let tail := items.flatMap fun a => (continuation ++ cell ++ a.shown ++ "\n").toList
  return String.ofList (dropTrailing (· == '\n') (head ++ tail))

/-- The item of a keyword. -/
def Item.ofKeyword (keyword : String) (arguments cell source : Value) (single : Bool) :
    Except Fault Item := do
  let insertion ←
    if single then oneLine keyword arguments cell else manyLines keyword arguments cell
  return ⟨keyword ++ "\t" ++ source.shown, insertion⟩

/-- The item of a library or resource, whose keywords follow a dot. -/
def Item.ofObject (name : String) : Item :=
  ⟨name ++ "\t" ++ name, String.ofList (escapeArguments name.toList ++ ['.'])⟩

/-- The item of a variable. With `whole` only the sigil has been typed, otherwise the braces have
been typed too. -/
def Item.ofVariable (name : String) (whole : Bool) : Item :=
  let chars := name.toList
  ⟨name, String.ofList (if whole then chars.drop 1 else between 2 (-1) chars)⟩

/-- The words that give an imported library another name. -/
def withName : String := "WITH NAME"

/-- The item for giving a library another name, offered while it is typed and no object is given. -/
def withName? (typed : String) (object : Option String) : Option Item :=
  if object.all String.isEmpty && typed.toList.isPrefixOf withName.toList then
    some ⟨withName ++ "\t" ++ withName, withName⟩
  else none

end KeywordCatalog.Completion
