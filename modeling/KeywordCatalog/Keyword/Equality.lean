import KeywordCatalog.Document.Access
import KeywordCatalog.Pattern.Compiled

/-!
# Equality of keyword names

A keyword can be written in upper or lower case, with spaces, with low lines or without them; all
these spellings have one `Keyword.bare` form. A candidate without a dollar sign is the keyword if
the bare forms agree, leading dots of the candidate not counted.

A candidate with a dollar sign has arguments in its name. Its bare form is a search pattern in which
every argument stands for a run of characters that are not blank, and the candidate is the keyword
if the pattern is found in the bare form of the keyword.
-/

namespace KeywordCatalog.Keyword

open Text

/-- Whether a character only divides the words of a name. -/
def isDivider (c : Char) : Bool := c == ' ' || c == '_'

/-- A name in lower case without the characters that divide its words. -/
def bareChars (name : List Char) : List Char := (lower name).filter (!isDivider ·)

/-- A name in lower case without the characters that divide its words. -/
def bare (name : String) : String := String.ofList (bareChars name.toList)

/-- Whether a character can stand in the name of an embedded argument. -/
def isArgumentChar (c : Char) : Bool := isWordChar c || c == ' '

/-- The mark that makes a pattern ignore case. -/
def caseMark : List Char := "(?i)".toList

/-- The embedded argument at the start of a text: its length and the pattern that stands for it. -/
def argumentAt : List Char → Option (Nat × List Char)
  | '$' :: '\x7b' :: rest =>
    let name := rest.takeWhile isArgumentChar
    match rest.dropWhile isArgumentChar with
    | '\x7d' :: _ => some (name.length + 3, caseMark ++ "(\\S+)".toList)
    | _ => none
  | _ => none

/-- The pattern of a bare candidate: patterns in place of its arguments. -/
def embeddedPattern (candidate : List Char) : List Char := substitute argumentAt candidate

/-- Compiles a pattern in which a mark anywhere makes the whole ignore case. -/
def compileMarked (text : List Char) : Except Fault Pattern :=
  Pattern.compileWith { ignoreCase := contains caseMark text } (erase caseMark text)

/-- Whether a keyword is an instance of a candidate with arguments in its name. -/
def isInstance (keyword candidate : String) : Except Fault Bool := do
  let p ← compileMarked (embeddedPattern (bareChars candidate.toList))
  p.occursIn (bare keyword)

/-- Whether a keyword has the name of a candidate. -/
def hasName (keyword candidate : String) : Bool :=
  bareChars keyword.toList == (bareChars candidate.toList).dropWhile (· == '.')

/-- Whether a keyword is the one that a candidate names. -/
def isNamed (keyword candidate : String) : Except Fault Bool :=
  if candidate.toList.contains '$' then isInstance keyword candidate
  else .ok (hasName keyword candidate)

/-- Whether a keyword is the one that a candidate names, both of them being documents. -/
def isNamedBy (keyword candidate : Value) : Except Fault Bool := do
  let _ ← candidate.has "$"
  let keyword ← keyword.asText
  let candidate ← candidate.asText
  isNamed keyword candidate

@[simp] theorem isNamedBy_text (keyword candidate : String) :
    isNamedBy (.text keyword) (.text candidate) = isNamed keyword candidate := rfl

end KeywordCatalog.Keyword
