import KeywordCatalog.Fault
import KeywordCatalog.Markup.Characters
import KeywordCatalog.Text.Encoding

/-!
# The start of a document

A document may start with a declaration that names the encoding of its bytes and tells whether it
stands alone. A text is stored as UTF-8, so a declared encoding in which each byte is a character
makes several characters of one. `Preamble.open` gives the characters that follow the declaration.
-/

namespace KeywordCatalog.Markup

open Text

/-- What a document tells about itself before it starts. -/
structure Preamble where
  encoding : Option (List Char) := none
  standsAlone : Bool := false
deriving DecidableEq, Repr

/-- Whether a character can stand in a value of a declaration. -/
def isSettingChar (c : Char) : Bool := c.isAlphanum || c == '.' || c == '-' || c == '_'

/-- Reads the settings of a declaration, at most as many as the first argument. -/
def readSettings : Nat → List Char → Option (List (String × List Char))
  | 0, _ => none
  | fuel + 1, text =>
    match skipSpace text with
    | [] => some []
    | next =>
      if !text.head?.any isSpace then none
      else
        let isName := fun c => c != '=' && !isSpace c
        match skipSpace (next.dropWhile isName) with
        | '=' :: rest =>
          match skipSpace rest with
          | quote :: rest =>
            match rest.dropWhile isSettingChar with
            | c :: tail =>
              if c == quote && (quote == '"' || quote == '\'') then
                (readSettings fuel tail).map fun more =>
                  (String.ofList (next.takeWhile isName), rest.takeWhile isSettingChar) :: more
              else none
            | [] => none
          | [] => none
        | _ => none

/-- The name of an encoding, which starts with a letter. -/
def encodingName? (name : List Char) : Option (List Char) :=
  if name.head?.any Char.isAlpha then some name else none

/-- Whether a setting says that a document stands alone. -/
def standsAlone? (value : List Char) : Option Bool :=
  [("yes", true), ("no", false)].lookup (String.ofList value)

/-- What the settings of a declaration say. They come in a fixed order, and the first is needed. -/
def Preamble.ofSettings? : List (String × List Char) → Option Preamble
  | [("version", _)] => some {}
  | [("version", _), ("encoding", e)] =>
    (encodingName? e).map fun e => { encoding := some e }
  | [("version", _), ("standalone", s)] => (standsAlone? s).map fun s => { standsAlone := s }
  | [("version", _), ("encoding", e), ("standalone", s)] =>
    (encodingName? e).bind fun e =>
      (standsAlone? s).map fun s => { encoding := some e, standsAlone := s }
  | _ => none

/-- Reads the declaration at the start of a document, if there is one. -/
def Preamble.read (text : List Char) : Option (Preamble × List Char) :=
  if "<?xml".toList.isPrefixOf text && !(text.drop 5).head?.any Alphabet.general.continues then
    (splitAt ['?', '>'] (text.drop 5)).bind fun (body, rest) =>
      (readSettings (body.length + 1) body).bind fun settings =>
        (Preamble.ofSettings? settings).map fun p => (p, rest)
  else some ({}, text)

/-- A text without the mark that may tell the order of its bytes. -/
def skipMark : List Char → List Char
  | '\ufeff' :: rest => rest
  | text => text

/-- The bytes of a text. -/
def bytesOf (text : List Char) : List UInt8 := (String.ofList text).toUTF8.toList

/-- The characters of a document in an encoding that is not built into the format. -/
def decodeNamed (name text : List Char) : Except Fault (List Char) :=
  match Encoding.named? name with
  | none => throw .unknownEncoding
  | some (.charset s) =>
    match s.decode? (bytesOf text) with
    | some chars => return chars
    | none => throw .badMarkup
  | some .wide => throw .wideEncoding
  | some .foreign => throw .badMarkup
  | some .narrow => throw .badEncoding
  | some .strict => throw .strictEncoding

/-- The characters of a document in a declared encoding, and the alphabet of its names. -/
def decodeAs (name text : List Char) : Except Fault (Alphabet × List Char) :=
  match String.ofList (name.map Char.toLower) with
  | "utf-8" => return (.general, text)
  | "us-ascii" =>
    if text.all fun c => c.toNat < 128 then return (.general, text) else throw .badMarkup
  | "iso-8859-1" => return (.western, (bytesOf text).map fun b => Char.ofNat b.toNat)
  | "utf-16" | "utf-16le" | "utf-16be" => throw .badMarkup
  | _ => do return (.general, ← decodeNamed name text)

/-- The order of the bytes in a document that has two for each character: whether the lesser byte
comes first. Such a document starts with a character whose other byte is zero. -/
def lesserFirst? : List UInt8 → Option Bool
  | a :: b :: _ => if a == 0 then some false else if b == 0 then some true else none
  | _ => none

/-- The numbers that pairs of bytes make up. A byte without another one makes up a number that no
document may hold. -/
def pairUp (lesserFirst : Bool) : List UInt8 → List Nat
  | [] => []
  | [_] => [0xFFFF]
  | a :: b :: rest =>
    (if lesserFirst then a.toNat + 256 * b.toNat else 256 * a.toNat + b.toNat)
      :: pairUp lesserFirst rest

/-- The characters that units of sixteen bits make up. One beyond the first sixteen bits takes two
units; half of one makes up a character that no document may hold. -/
def charsOfUnits : List Nat → List Char
  | [] => []
  | [u] => [if 0xD800 ≤ u && u ≤ 0xDFFF then '\uffff' else Char.ofNat u]
  | u :: v :: rest =>
    if u < 0xD800 || 0xDFFF < u then Char.ofNat u :: charsOfUnits (v :: rest)
    else if u < 0xDC00 && 0xDC00 ≤ v && v ≤ 0xDFFF then
      Char.ofNat (0x10000 + 0x400 * (u - 0xD800) + (v - 0xDC00)) :: charsOfUnits rest
    else '\uffff' :: charsOfUnits (v :: rest)

/-- The characters of a document with two bytes for each, which may only declare what it is. -/
def confirmUnits (lesserFirst : Bool) (name text : List Char) :
    Except Fault (Alphabet × List Char) := do
  match String.ofList (name.map Char.toLower) with
  | "utf-16" => return (.western, text)
  | "utf-16le" => if lesserFirst then return (.western, text) else throw .badMarkup
  | "utf-16be" => if lesserFirst then throw .badMarkup else return (.western, text)
  | "utf-8" | "us-ascii" | "iso-8859-1" => throw .badMarkup
  | _ =>
    let _ ← decodeNamed name text
    throw .badMarkup

/-- What a document says after its declaration: the alphabet of its names, whether it stands alone,
and its characters, all of which are legal. -/
def Preamble.open (text : String) : Except Fault (Alphabet × Bool × List Char) := do
  let order? := lesserFirst? (text.toUTF8.toList.take 2)
  let chars := match order? with
    | none => skipMark text.toList
    | some order => charsOfUnits (pairUp order text.toUTF8.toList)
  match Preamble.read chars with
  | none => throw .badMarkup
  | some (p, rest) =>
    let (a, chars) ← match order?, p.encoding with
      | none, none => pure (.general, rest)
      | none, some name => decodeAs name rest
      | some _, none => pure (.western, rest)
      | some order, some name => confirmUnits order name rest
    if chars.all isLegal then return (a, p.standsAlone, unifyLines chars) else throw .badMarkup

end KeywordCatalog.Markup
