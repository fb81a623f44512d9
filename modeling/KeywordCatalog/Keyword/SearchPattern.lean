import KeywordCatalog.Keyword.Words

/-!
# Patterns that find a keyword in its source

The search pattern for the place where a keyword is defined: in a resource or suite a line that is
the keyword's name, in a library a function of that name or a decorator that gives it the name.
Between the words of the name there may be a divider.

A pattern is put together word by word, each word followed by the pattern of a divider, and the last
divider is taken off by stripping its characters from the end.
-/

namespace KeywordCatalog.Keyword

open Text

/-- The pattern of an embedded argument. -/
def argumentPattern : List Char := "\\$\\\x7b.+\\\x7d".toList

/-- Whether an embedded argument starts a text and ends on its first line. -/
def startsWithArgument (text : List Char) : Bool :=
  match text with
  | '$' :: '\x7b' :: _ :: rest => rest.contains '\x7d'
  | _ => false

/-- Whether a line has an embedded argument. -/
def lineHasArgument : List Char → Bool
  | [] => false
  | c :: rest => startsWithArgument (c :: rest) || lineHasArgument rest

/-- Whether a text has an embedded argument. -/
def hasArgument (text : List Char) : Bool := (lines text).any lineHasArgument

/-- The pattern of a word. -/
def wordPattern (word : List Char) : List Char :=
  if hasArgument word then argumentPattern else lower word

/-- The words of a name with a divider after each of them. -/
def joined (divider : String) (form : List Char → List Char) (name : List Char) : List Char :=
  (words name).flatMap fun word => form word ++ divider.toList

/-- A text without the characters of a set at its end. -/
def stripEnd (set : String) (text : List Char) : List Char :=
  dropTrailing (fun c => set.toList.contains c) text

/-- The start of the pattern for a decorator that names a keyword. -/
def decoratorStart : List Char := "(\\@keyword.+name=[\\'\"]".toList

/-- The pattern for a keyword of a resource or suite. -/
def resourcePattern (name : String) : String :=
  let body := "(?im)^".toList ++ joined "[_ ]?" wordPattern name.toList
  String.ofList (stripEnd "[_ ]?" body ++ ['$'])

/-- The pattern for a library keyword with embedded arguments. -/
def libraryPatternEmbedded (name : List Char) : List Char :=
  let body := "(?i)".toList ++ decoratorStart ++ joined "[_ ]?" wordPattern name
  stripEnd "[_ ]?" body ++ [')']

/-- The pattern for a library keyword without embedded arguments. -/
def libraryPatternPlain (name : List Char) : List Char :=
  let function := "(?im)(def ".toList ++ joined "_?" lower name
  let decorator := decoratorStart ++ joined "[_ ]" lower name
  stripEnd "_?" function ++ "\\()|".toList ++ stripEnd "[_ ]" decorator ++ [')']

/-- The pattern for a library keyword. -/
def libraryPattern (name : String) : String :=
  let chars := name.toList
  String.ofList
    (if hasArgument chars then libraryPatternEmbedded chars else libraryPatternPlain chars)

end KeywordCatalog.Keyword
