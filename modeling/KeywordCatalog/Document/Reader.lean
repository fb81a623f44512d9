import KeywordCatalog.Fault
import KeywordCatalog.Ordered
import KeywordCatalog.Text.Digits
import KeywordCatalog.Text.Half

/-!
# Reading documents

The written form of a document, read over `List Char`. Each reader takes one piece off the front
of a text and answers with the piece and the rest, or with `none` or a fault if there is no such
piece. A key that an object has twice stands where it came first and has the document that came
last. Lists and objects may be nested to a limited depth.

`Value.parse` reads a whole text; it refuses a byte order mark and anything after the document.
-/

namespace KeywordCatalog.Document

open Text

/-- The characters that may stand between the parts of a document. -/
def isSpacing (c : Char) : Bool := c == ' ' || c == '\t' || c == '\n' || c == '\r'

/-- A text without the spacing in front of it. -/
def skipSpacing (text : List Char) : List Char := text.dropWhile isSpacing

/-- Reads the four digits of a code unit. -/
def readUnit : List Char → Option (Nat × List Char)
  | a :: b :: c :: d :: rest =>
    match hexDigit? a, hexDigit? b, hexDigit? c, hexDigit? d with
    | some a, some b, some c, some d => some (((a * 16 + b) * 16 + c) * 16 + d, rest)
    | _, _, _, _ => none
  | _ => none

/-- The character of a pair of code units. -/
def pairChar (high low : Nat) : Char :=
  Char.ofNat (0x10000 + (high - 0xD800) * 0x400 + (low - 0xDC00))

/-- The character that a letter stands for after a backslash. -/
def escapedChar? (e : Char) : Option Char :=
  match e with
  | '"' => some '"'
  | '\\' => some '\\'
  | '/' => some '/'
  | 'b' => some '\x08'
  | 'f' => some '\x0c'
  | 'n' => some '\n'
  | 'r' => some '\r'
  | 't' => some '\t'
  | _ => none

/-- Reads a character written by its code units, after the letter that announces them. -/
def readCoded (text : List Char) : Option (Char × List Char) :=
  match readUnit text with
  | none => none
  | some (high, rest) =>
    if isHighHalf high then
      match rest with
      | '\\' :: 'u' :: tail =>
        match readUnit tail with
        | some (low, tail') =>
          if isLowHalf low then some (pairChar high low, tail') else some (charOf high, rest)
        | none => none
      | _ => some (charOf high, rest)
    else some (charOf high, rest)

/-- Reads one character of a quoted text that does not end it. -/
def readQuotedChar : List Char → Option (Char × List Char)
  | [] => none
  | '\\' :: 'u' :: rest => readCoded rest
  | '\\' :: e :: rest => (escapedChar? e).map fun c => (c, rest)
  | c :: rest => if c == '\\' || c.toNat < 32 then none else some (c, rest)

/-- Reads the characters of a quoted text up to its closing quote. The first argument bounds their
number. -/
def readQuoted : Nat → List Char → Option (List Char × List Char)
  | 0, _ => none
  | _ + 1, [] => none
  | fuel + 1, c :: rest =>
    if c == '"' then some ([], rest)
    else
      match readQuotedChar (c :: rest) with
      | none => none
      | some (x, tail) => (readQuoted fuel tail).map fun (xs, tail') => (x :: xs, tail')

/-- Reads a quoted text after its opening quote. -/
def readText (fuel : Nat) (text : List Char) : Option (String × List Char) :=
  (readQuoted fuel text).map fun (cs, rest) => (String.ofList cs, rest)

/-- Splits off the fraction of a number. -/
def readFraction : List Char → List Char × List Char
  | '.' :: rest =>
    let digits := rest.takeWhile Char.isDigit
    if digits.isEmpty then ([], '.' :: rest) else ('.' :: digits, rest.dropWhile Char.isDigit)
  | rest => ([], rest)

/-- Splits off the exponent of a number. -/
def readExponent (text : List Char) : List Char × List Char :=
  match text with
  | e :: rest =>
    if e == 'e' || e == 'E' then
      let (sign, tail) :=
        match rest with
        | '+' :: tail => (['+'], tail)
        | '-' :: tail => (['-'], tail)
        | _ => ([], rest)
      let digits := tail.takeWhile Char.isDigit
      if digits.isEmpty then ([], text)
      else (e :: sign ++ digits, tail.dropWhile Char.isDigit)
    else ([], text)
  | [] => ([], [])

/-- Splits off the whole part of a number: a zero, or digits that do not start with one. -/
def readWhole : List Char → Option (List Char × List Char)
  | [] => none
  | c :: rest =>
    if c == '0' then some (['0'], rest)
    else if c.isDigit then some (c :: rest.takeWhile Char.isDigit, rest.dropWhile Char.isDigit)
    else none

/-- A piece of a document with the text after it, or the fault that there is none. -/
abbrev Reading (α : Type) := Except Fault (α × List Char)

/-- A reading that fails. -/
def malformed {α : Type} : Reading α := .error .badDocument

/-- A reading of a piece that may be missing. -/
def orMalformed {α : Type} (found : Option (α × List Char)) : Reading α :=
  match found with
  | some piece => .ok piece
  | none => malformed

/-- Reads a number without its sign. -/
def readUnsigned (negative : Bool) (text : List Char) : Reading Value :=
  match readWhole text with
  | none => malformed
  | some (whole, rest) =>
    let (fraction, rest) := readFraction rest
    let (exponent, rest) := readExponent rest
    if fraction.isEmpty && exponent.isEmpty then
      if digitLimit < whole.length then .error .numberTooLong
      else .ok (.int (if negative then -(decimal whole : Int) else decimal whole), rest)
    else
      let literal := whole ++ fraction ++ exponent
      .ok (.real (String.ofList (if negative then '-' :: literal else literal)), rest)

/-- The words that stand for a document. -/
def words : List (String × Value) :=
  [("null", .null), ("true", .bool true), ("false", .bool false), ("NaN", .real "NaN"),
   ("Infinity", .real "Infinity"), ("-Infinity", .real "-Infinity")]

/-- Reads a word that stands for a document. -/
def readWord (text : List Char) : Option (Value × List Char) :=
  words.findSome? fun (word, v) =>
    if word.toList.isPrefixOf text then some (v, text.drop word.length) else none

/-- Reads a document that is neither a list nor an object. -/
def readPlain (fuel : Nat) : List Char → Reading Value
  | '"' :: rest => orMalformed ((readText fuel rest).map fun (s, tail) => (.text s, tail))
  | text =>
    match readWord text with
    | some found => .ok found
    | none =>
      match text with
      | '-' :: rest => readUnsigned true rest
      | _ => readUnsigned false text

/-- Reads the key of a field, its colon and the spacing around them. -/
def readKey (fuel : Nat) : List Char → Reading String
  | '"' :: rest =>
    match readText fuel rest with
    | none => malformed
    | some (key, tail) =>
      match skipSpacing tail with
      | ':' :: after => .ok (key, skipSpacing after)
      | _ => malformed
  | _ => malformed

mutual

/-- Reads a document. The first argument bounds the number of its parts, the second one the number
of its levels. -/
def readValue : Nat → Nat → List Char → Reading Value
  | 0, _, _ => malformed
  | fuel + 1, room, text =>
    match text, room with
    | '[' :: _, 0 => .error .tooDeep
    | '[' :: rest, room + 1 =>
      match skipSpacing rest with
      | ']' :: tail => .ok (.list [], tail)
      | tail => (readItems fuel room tail).map fun (items, tail) => (.list items, tail)
    | '\x7b' :: _, 0 => .error .tooDeep
    | '\x7b' :: rest, room + 1 =>
      match skipSpacing rest with
      | '\x7d' :: tail => .ok (.object [], tail)
      | tail => (readFields fuel room [] tail).map fun (fields, tail) => (.object fields, tail)
    | _, _ => readPlain fuel text

/-- Reads the items of a list up to its end. -/
def readItems : Nat → Nat → List Char → Reading (List Value)
  | 0, _, _ => malformed
  | fuel + 1, room, text =>
    match readValue fuel room text with
    | .error fault => .error fault
    | .ok (v, rest) =>
      match skipSpacing rest with
      | ',' :: tail =>
        (readItems fuel room (skipSpacing tail)).map fun (vs, tail) => (v :: vs, tail)
      | ']' :: tail => .ok ([v], tail)
      | _ => malformed

/-- Reads the fields of an object up to its end, after those read so far. -/
def readFields :
    Nat → Nat → List (String × Value) → List Char → Reading (List (String × Value))
  | 0, _, _, _ => malformed
  | fuel + 1, room, fields, text =>
    match readKey fuel text with
    | .error fault => .error fault
    | .ok (key, rest) =>
      match readValue fuel room rest with
      | .error fault => .error fault
      | .ok (v, rest) =>
        let fields := Ordered.put key v fields
        match skipSpacing rest with
        | ',' :: tail => readFields fuel room fields (skipSpacing tail)
        | '\x7d' :: tail => .ok (fields, tail)
        | _ => malformed

end

/-- The largest number of levels that a document may have. -/
def levelLimit : Nat := 985

end KeywordCatalog.Document

namespace KeywordCatalog

/-- The document that a list of characters writes. -/
def Value.ofChars (text : List Char) : Except Fault Value := do
  let start := Document.skipSpacing text
  let (v, rest) ← Document.readValue (2 * text.length + 2) Document.levelLimit start
  if (Document.skipSpacing rest).isEmpty then return v else throw .badDocument

/-- The document that a text writes, or the fault that it writes none. -/
def Value.parse (text : String) : Except Fault Value := Value.ofChars text.toList

end KeywordCatalog
