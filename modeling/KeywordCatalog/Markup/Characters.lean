import KeywordCatalog.Markup.NameTable
import KeywordCatalog.Text.Digits

/-!
# Characters and references of markup

Which characters a markup document may hold, which of them make up names, and the references that
stand between an ampersand and a semicolon: to a character by its number, or to an entity by its
name.
-/

namespace KeywordCatalog.Markup

open Text

/-- Whether a character only divides parts of markup. -/
def isSpace (c : Char) : Bool := c == ' ' || c == '\t' || c == '\n' || c == '\r'

/-- Whether a document may hold a code point. -/
def isLegalCode (n : Nat) : Bool :=
  n == 9 || n == 10 || n == 13 || (32 ≤ n && n ≤ 0xD7FF) || (0xE000 ≤ n && n ≤ 0xFFFD)
    || (0x10000 ≤ n && n ≤ 0x10FFFF)

/-- Whether a document may hold a character. -/
def isLegal (c : Char) : Bool := isLegalCode c.toNat

/-- A text without the dividing characters in front of it. -/
def skipSpace (text : List Char) : List Char := text.dropWhile isSpace

/-- A text with line breaks of one kind. -/
def unifyLines : List Char → List Char
  | [] => []
  | '\r' :: '\n' :: rest => '\n' :: unifyLines rest
  | c :: rest => (if c == '\r' then '\n' else c) :: unifyLines rest

/-- The letters that names are made of, which depend on how the text is written. -/
inductive Alphabet
  | general
  /-- The ordinal signs and the micro sign are letters too. -/
  | western
deriving DecidableEq, Repr

namespace Alphabet

/-- Whether a character can start a name. The colon between the parts of a name is none of its
letters. -/
def starts (a : Alphabet) (c : Char) : Bool :=
  c.isAlpha || c == '_'
    || (128 ≤ c.toNat
      && (nameStartRanges.has c.toNat || (a == .western && ['ª', 'µ', 'º'].contains c)))

/-- Whether a character can stand in a name. -/
def continues (a : Alphabet) (c : Char) : Bool :=
  a.starts c || c.isDigit || c == '-' || c == '.'
    || (128 ≤ c.toNat && nameInnerRanges.has c.toNat)

/-- Reads a name without a colon. -/
def readName (a : Alphabet) : List Char → Option (String × List Char)
  | [] => none
  | c :: rest =>
    if a.starts c then
      some (String.ofList (c :: rest.takeWhile a.continues), rest.dropWhile a.continues)
    else none

end Alphabet

/-- The number that hexadecimal digits write. -/
def hexadecimal (digits : List Char) : Nat :=
  digits.foldl (fun n d => n * 16 + (hexDigit? d).getD 0) 0

/-- The character of a code point, if a document may hold it. -/
def charOfCode? (n : Nat) : Option Char := if isLegalCode n then some (Char.ofNat n) else none

/-- What a reference stands for. -/
inductive Reference
  | char (c : Char)
  | entity (name : String)
deriving DecidableEq, Repr

/-- The character that an entity stands for without a declaration. -/
def predefined? (name : String) : Option Char :=
  [("lt", '<'), ("gt", '>'), ("amp", '&'), ("quot", '"'), ("apos", '\'')].lookup name

/-- Reads the end of a reference to a character, given the digits of its number. -/
def readNumber (isDigit : Char → Bool) (number : List Char → Nat) (text : List Char) :
    Option (Reference × List Char) :=
  match text.takeWhile isDigit, text.dropWhile isDigit with
  | d :: digits, ';' :: rest =>
    (charOfCode? (number (d :: digits))).map fun c => (.char c, rest)
  | _, _ => none

/-- Reads a reference after its ampersand. -/
def Alphabet.readReference (a : Alphabet) : List Char → Option (Reference × List Char)
  | '#' :: 'x' :: rest => readNumber (fun c => (hexDigit? c).isSome) hexadecimal rest
  | '#' :: rest => readNumber Char.isDigit decimal rest
  | text =>
    match a.readName text with
    | some (name, ';' :: rest) => some (.entity name, rest)
    | _ => none

/-- A part of a text with references. -/
inductive Piece
  | plain (c : Char)
  | reference (r : Reference)
deriving DecidableEq, Repr

/-- The parts of a text with references, at most as many as the first argument. -/
def Alphabet.splitPieces (a : Alphabet) : Nat → List Char → Option (List Piece)
  | _, [] => some []
  | 0, _ :: _ => none
  | fuel + 1, c :: rest =>
    if c == '&' then
      (a.readReference rest).bind fun (r, tail) =>
        (a.splitPieces fuel tail).map fun more => .reference r :: more
    else (a.splitPieces fuel rest).map fun more => .plain c :: more

/-- The parts of a text with references, if each ampersand starts one. -/
def Alphabet.pieces (a : Alphabet) (text : List Char) : Option (List Piece) :=
  a.splitPieces text.length text

/-- The text after a mark, and the text before it, if the mark occurs. -/
def splitAt (mark : List Char) : List Char → Option (List Char × List Char)
  | [] => none
  | c :: rest =>
    if mark.isPrefixOf (c :: rest) then some ([], (c :: rest).drop mark.length)
    else (splitAt mark rest).map fun (head, tail) => (c :: head, tail)

/-- What follows a comment, after its opening. Two hyphens only occur at its end. -/
def skipComment (text : List Char) : Option (List Char) :=
  match splitAt ['-', '-'] text with
  | some (_, '>' :: rest) => some rest
  | _ => none

/-- What follows an instruction, after its opening. The name of the format is kept for the
declaration at the start of a document. -/
def Alphabet.skipInstruction (a : Alphabet) (text : List Char) : Option (List Char) :=
  (a.readName text).bind fun (name, rest) =>
    if name.toList.map Char.toLower == "xml".toList then none
    else
      (splitAt ['?', '>'] rest).bind fun (body, tail) =>
        if body.isEmpty || body.head?.any isSpace then some tail else none

end KeywordCatalog.Markup
