import KeywordCatalog.Document.Value
import KeywordCatalog.Text.Digits
import KeywordCatalog.Text.Half

/-!
# Writing documents

The written form of a document, with printable characters of the first 128 only; every other
character of a text is escaped. `Value.render` writes on one line, `Value.renderIndented` puts every
part on a line of its own, four spaces deeper for each level.
-/

namespace KeywordCatalog.Document

open Text

/-- The four digits of a code unit. -/
def unitDigits (n : Nat) : List Char :=
  [hexChar (n / 4096 % 16), hexChar (n / 256 % 16), hexChar (n / 16 % 16), hexChar (n % 16)]

/-- An escape that writes a code unit by its digits. -/
def writeUnit (n : Nat) : List Char := '\\' :: 'u' :: unitDigits n

/-- A code point beyond the first 65536 by a pair of code units. -/
def writePair (code : Nat) : List Char :=
  writeUnit (0xD800 + (code - 0x10000) / 0x400) ++ writeUnit (0xDC00 + (code - 0x10000) % 0x400)

/-- A character by its code units, a pair if it lies beyond the first 65536. -/
def writeCoded (c : Char) : List Char :=
  if codeOf c < 0x10000 then writeUnit (codeOf c) else writePair (codeOf c)

/-- A character as it stands in a quoted text. -/
def writeChar (c : Char) : List Char :=
  match c with
  | '"' => ['\\', '"']
  | '\\' => ['\\', '\\']
  | '\n' => ['\\', 'n']
  | '\r' => ['\\', 'r']
  | '\t' => ['\\', 't']
  | '\x0c' => ['\\', 'f']
  | '\x08' => ['\\', 'b']
  | _ => if 32 ≤ c.toNat && c.toNat < 127 then [c] else writeCoded c

/-- The characters of a text as they stand between quotes. A first half before a second half would
make a pair with it, so it can only be the character that it is kept as. -/
def writeChars : List Char → List Char
  | [] => []
  | c :: rest =>
    let joins := isHighHalf (codeOf c) && rest.head?.any fun d => isLowHalf (codeOf d)
    (if joins then writePair c.toNat else writeChar c) ++ writeChars rest

/-- A text between quotes. -/
def writeText (s : String) : List Char := '"' :: (writeChars s.toList ++ ['"'])

/-- A number with its sign. -/
def writeInt : Int → List Char
  | .ofNat n => Nat.toDigits 10 n
  | .negSucc n => '-' :: Nat.toDigits 10 (n + 1)

mutual

/-- A document on one line. -/
def write : Value → List Char
  | .null => "null".toList
  | .bool true => "true".toList
  | .bool false => "false".toList
  | .int n => writeInt n
  | .real literal => literal.toList
  | .text s => writeText s
  | .list items => '[' :: (writeItems items ++ [']'])
  | .object fields => '\x7b' :: (writeFields fields ++ ['\x7d'])

/-- The items of a list. -/
def writeItems : List Value → List Char
  | [] => []
  | v :: rest => write v ++ writeMoreItems rest

/-- The items of a list after its first one. -/
def writeMoreItems : List Value → List Char
  | [] => []
  | v :: rest => ',' :: ' ' :: (write v ++ writeMoreItems rest)

/-- The fields of an object. -/
def writeFields : List (String × Value) → List Char
  | [] => []
  | (key, v) :: rest => writeText key ++ ':' :: ' ' :: (write v ++ writeMoreFields rest)

/-- The fields of an object after its first one. -/
def writeMoreFields : List (String × Value) → List Char
  | [] => []
  | (key, v) :: rest =>
    ',' :: ' ' :: (writeText key ++ ':' :: ' ' :: (write v ++ writeMoreFields rest))

end

/-- A line break and the indentation of a level. -/
def breakTo (level : Nat) : List Char := '\n' :: List.replicate (4 * level) ' '

mutual

/-- A document whose parts stand on lines of their own, at a level of indentation. -/
def writeIndented (level : Nat) : Value → List Char
  | .list (v :: rest) =>
    '[' :: (breakTo (level + 1) ++ writeIndented (level + 1) v
      ++ writeIndentedItems (level + 1) rest ++ breakTo level ++ [']'])
  | .object ((key, v) :: rest) =>
    '\x7b' :: (breakTo (level + 1) ++ writeText key ++ ':' :: ' ' :: writeIndented (level + 1) v
      ++ writeIndentedFields (level + 1) rest ++ breakTo level ++ ['\x7d'])
  | .list [] => ['[', ']']
  | .object [] => ['\x7b', '\x7d']
  | .null => write .null
  | .bool b => write (.bool b)
  | .int n => write (.int n)
  | .real literal => write (.real literal)
  | .text s => write (.text s)

/-- The items of a list after its first one, on lines of their own. -/
def writeIndentedItems (level : Nat) : List Value → List Char
  | [] => []
  | v :: rest =>
    ',' :: (breakTo level ++ writeIndented level v ++ writeIndentedItems level rest)

/-- The fields of an object after its first one, on lines of their own. -/
def writeIndentedFields (level : Nat) : List (String × Value) → List Char
  | [] => []
  | (key, v) :: rest =>
    ',' :: (breakTo level ++ writeText key ++ ':' :: ' ' :: writeIndented level v
      ++ writeIndentedFields level rest)

end

end KeywordCatalog.Document

namespace KeywordCatalog

/-- The text of a document on one line. -/
def Value.render (v : Value) : String := String.ofList (Document.write v)

/-- The text of a document with its parts on lines of their own. -/
def Value.renderIndented (v : Value) : String := String.ofList (Document.writeIndented 0 v)

end KeywordCatalog
