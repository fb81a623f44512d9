import KeywordCatalog.Text.Basic
import KeywordCatalog.Text.Blank
import KeywordCatalog.Text.Case

/-!
# Import lines

Lines of a settings table that import a library, a resource or a variable file. The words are
recognised in upper and lower case. A line in pipe format starts with a pipe and has pipes between
its cells.
-/

namespace KeywordCatalog.Import

open Text

/-- The text after a word, letters compared without case. -/
def afterWord : List Char → List Char → Option (List Char)
  | [], text => some text
  | _ :: _, [] => none
  | x :: word, c :: text => if sameLetter x c then afterWord word text else none

@[simp] theorem afterWord_nil (text : List Char) : afterWord [] text = some text := by
  cases text <;> rfl

/-- The text after the first of some words that starts a text. -/
def afterOneOf (words : List String) (text : List Char) : Option (List Char) :=
  words.findSome? fun word => afterWord word.toList text

/-- Whether a text starts with two blanks, or with a blank and a pipe. -/
def startsWithGap : List Char → Bool
  | a :: b :: _ => isBlank a && (isBlank b || b == '|')
  | _ => false

/-- Whether a text starts with the word of an import and a gap. -/
def startsWithImport (text : List Char) : Bool :=
  (afterOneOf ["library"] text).any startsWithGap
    || (afterOneOf ["resource"] text).any startsWithGap

/-- Whether a line imports a library or a resource. -/
def isImport (line : List Char) : Bool :=
  (match line with
    | '|' :: c :: rest => isBlank c && startsWithImport rest
    | _ => false)
  || startsWithImport line

/-- The name after the word of an import: after blanks, and after a pipe with blanks if a name
follows them. -/
def nameAfter (text : List Char) : Option (List Char) :=
  if !text.head?.any isBlank then none
  else
    let rest := text.dropWhile isBlank
    let afterPipe :=
      match rest with
      | '|' :: tail => if tail.head?.any isBlank then tail.dropWhile isBlank else []
      | _ => []
    let name := (if afterPipe.isEmpty then rest else afterPipe).takeWhile (!isBlank ·)
    if name.isEmpty then none else some name

/-- The name that the first import in a text imports. -/
def name? : List Char → Option (List Char)
  | [] => none
  | c :: rest =>
    match (afterOneOf ["resource", "library"] (c :: rest)).bind nameAfter with
    | some name => some name
    | none => name? rest

/-- The kinds of import that can be completed from the database. -/
inductive Kind
  | library
  | resource
  | variableFile
deriving DecidableEq, Repr

/-- The word of a kind of import. -/
def Kind.word : Kind → String
  | .library => "library"
  | .resource => "resource"
  | .variableFile => "variables"

/-- A text without a pipe and the spaces after it; a pipe without spaces stays. -/
def skipPipe (text : List Char) : List Char :=
  match text with
  | '|' :: ' ' :: rest => rest.dropWhile (· == ' ')
  | _ => text

/-- Whether a text is a space and then either more spaces or a pipe and a space. A line break may
end it. -/
def isOpenEnd (text : List Char) : Bool :=
  match dropFinalBreak text with
  | ' ' :: rest => rest == ['|', ' '] || (!rest.isEmpty && rest.all (· == ' '))
  | _ => false

/-- Whether a line is the word of a kind of import, waiting for the name. -/
def isOpen (kind : Kind) (line : List Char) : Bool :=
  (afterWord kind.word.toList (skipPipe line)).any isOpenEnd

/-- The kind of import that a line is waiting to complete. -/
def openKind? (line : List Char) : Option Kind :=
  [Kind.resource, .library, .variableFile].find? fun kind => isOpen kind line

end KeywordCatalog.Import
