/-!
# Character sets of single bytes

A character set gives each byte one character at most. The bytes below 128 stand for the characters
of the same number. A set is looked up by its names, in which case and the kind of dividing mark do
not count: `charsetKey` is what remains of a name.
-/

namespace KeywordCatalog.Text

/-- A character set: its own names, other names that it goes by, and what its bytes stand for. -/
structure Charset where
  ownNames : List String
  otherNames : List String
  /-- The characters of the bytes from 128 on. The replacement character marks a byte that stands
  for none. -/
  upper : String
  /-- The bytes below 128 that stand for no character. -/
  gaps : List Nat := []
deriving DecidableEq, Repr

/-- What counts of the name of a character set: its words in lower case, with single dashes. -/
def charsetKey (name : List Char) : List Char :=
  let words := name.splitOnP fun c => !(c.isAlphanum || c == '.')
  (words.filter fun w => !w.isEmpty).intersperse ['_'] |>.flatten.map Char.toLower

/-- Whether one of two lists of names has what counts of a name. Points may stand for dashes in
names of the second. -/
def listsName (ownNames otherNames : List String) (key : List Char) : Bool :=
  let undotted := key.map fun c => if c == '.' then '_' else c
  ownNames.contains (String.ofList key) || otherNames.contains (String.ofList key)
    || otherNames.contains (String.ofList undotted)

/-- The control characters from 128 to 159, which the bytes of the same numbers stand for in many
sets. -/
def upperControls : String :=
  "\x80\x81\x82\x83\x84\x85\x86\x87\x88\x89\x8a\x8b\x8c\x8d\x8e\x8f\x90\x91\x92\x93\x94"
  ++ "\x95\x96\x97\x98\x99\x9a\x9b\x9c\x9d\x9e\x9f"

namespace Charset

/-- The character that a byte stands for. -/
def char? (s : Charset) (byte : Nat) : Option Char :=
  if byte < 128 then (if s.gaps.contains byte then none else some (Char.ofNat byte))
  else (s.upper.toList[byte - 128]?).filter (· != '\ufffd')

/-- The characters that bytes stand for, if each stands for one. -/
def decode? (s : Charset) (bytes : List UInt8) : Option (List Char) :=
  bytes.mapM fun byte => s.char? byte.toNat

end Charset

end KeywordCatalog.Text
